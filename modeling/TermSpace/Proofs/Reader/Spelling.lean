import Mathlib.Data.List.Forall2
import TermSpace.Proofs.Reader.Grammar

/-!
# Texts that spell terms

A text spells a term if it has tokens that derive the term, and has them whatever follows that is not more of
its last symbol (`Spells`).  Such texts can be put together: a name spells an atom, and a list spells what the
grammar makes of it if its parts are spelled, with blanks between them (`Spells.surface`) or behind commas
(`Spells.canonical`).
-/

namespace TermSpace.Reader

set_option autoImplicit false

/-! ## Texts and tokens -/

/-- The text goes to the tokens, whatever follows that is not more of its last symbol. -/
def SplitsInto (text : String) (tokens : List Token) : Prop :=
  ∀ (rest : List Char) (later : List Token), NoSymbolAhead rest → Tokenizes rest later →
    Tokenizes (text.toList ++ rest) (tokens ++ later)

theorem SplitsInto.append {first second : String} {tokens others : List Token}
    (before : SplitsInto first tokens) (after : SplitsInto second others)
    (apart : ∀ rest, NoSymbolAhead rest → NoSymbolAhead (second.toList ++ rest)) :
    SplitsInto (first ++ second) (tokens ++ others) := by
  intro rest later longest tokenizes
  simpa using before _ _ (apart rest longest) (after rest later longest tokenizes)

theorem splitsInto_empty : SplitsInto "" [] := fun _ _ _ tokenizes => tokenizes

/-- An opening parenthesis is a token whatever follows. -/
theorem SplitsInto.opened {text : String} {tokens : List Token} (inside : SplitsInto text tokens) :
    SplitsInto ("(" ++ text) (.opening :: tokens) := by
  intro rest later longest tokenizes
  simpa using Tokenizes.opening (inside rest later longest tokenizes)

theorem splitsInto_closing : SplitsInto ")" [.closing] :=
  fun _ _ _ tokenizes => .closing tokenizes

/-! ## Atoms -/

/-- The text has tokens that derive the term, whatever follows that is not more of its last symbol. -/
def Spells (text : String) (term : Term) : Prop := ∃ tokens, Derives tokens term ∧ SplitsInto text tokens

theorem Spells.readTerm_eq_ok {text : String} {term : Term} (spells : Spells text term) :
    readTerm text = .ok term := by
  obtain ⟨tokens, derives, splits⟩ := spells
  have tokenizes := splits [] [] (by simp [NoSymbolAhead]) .nothing
  exact readTerm_eq_ok_iff.2 ⟨tokens, by simpa using tokenizes, derives⟩

/-- A name that is one symbol or one complete text literal. -/
def ReadableName (name : String) : Prop := IsSymbol name.toList ∨ IsLiteral name.toList

/-- A name is a token if a symbol can have all of its characters. -/
theorem readableName_of_all {name : String} (nonempty : name.toList ≠ [])
    (all : name.toList.all isSymbolCharacter = true) : ReadableName name :=
  .inl ⟨nonempty, List.all_eq_true.1 all⟩

/-- A readable name is one token. -/
theorem ReadableName.spelled {name : String} (readable : ReadableName name) :
    ∃ token, Names token name ∧ SplitsInto name [token] := by
  rcases readable with row | complete
  · refine ⟨_, .symbol name, fun rest later longest tokenizes => ?_⟩
    simpa using Tokenizes.symbol row longest tokenizes
  · refine ⟨_, .literal name, fun rest later _ tokenizes => ?_⟩
    simpa using Tokenizes.literal complete tokenizes

theorem ReadableName.spells {name : String} (readable : ReadableName name) : Spells name (.atom name) := by
  obtain ⟨token, names, splits⟩ := readable.spelled
  exact ⟨[token], .atom names, splits⟩

/-! ## Lists -/

/-- Texts with a separator in front of each. -/
def behind (separator : String) : List String → String
  | [] => ""
  | text :: texts => separator ++ text ++ behind separator texts

/-- A separator ends a symbol, and has tokens of its own whatever follows. -/
structure Separates (separator : String) (tokens : List Token) : Prop where
  ends : ∀ rest, NoSymbolAhead (separator.toList ++ rest)
  splits : ∀ rest later, Tokenizes rest later → Tokenizes (separator.toList ++ rest) (tokens ++ later)

theorem separates_blank : Separates " " [] where
  ends := fun rest => noSymbolAhead_cons (by decide) rest
  splits := fun _ _ tokenizes => .blank (by decide) tokenizes

theorem separates_comma : Separates ", " [.comma] where
  ends := fun rest => noSymbolAhead_cons (by decide) (' ' :: rest)
  splits := fun _ _ tokenizes => .comma (.blank (by decide) tokenizes)

namespace Separates

variable {separator : String} {tokens : List Token}

/-- Texts behind a separator do not go on with a symbol. -/
theorem noSymbolAhead (separates : Separates separator tokens) (texts : List String) {rest : List Char}
    (longest : NoSymbolAhead rest) : NoSymbolAhead ((behind separator texts).toList ++ rest) := by
  cases texts with
  | nil => simpa [behind] using longest
  | cons text texts => simpa [behind] using separates.ends _

/-- Texts that spell terms, behind a separator. -/
theorem exists_parts (separates : Separates separator tokens) {texts : List String} {terms : List Term}
    (each : List.Forall₂ Spells texts terms) :
    ∃ parts : List (List Token × Term), parts.map (·.2) = terms ∧
      (∀ part ∈ parts, Derives part.1 part.2) ∧
      SplitsInto (behind separator texts) (parts.flatMap fun part => tokens ++ part.1) := by
  induction each with
  | nil => exact ⟨[], rfl, by simp, splitsInto_empty⟩
  | @cons text term texts terms spells _ ih =>
    obtain ⟨here, derives, splits⟩ := spells
    obtain ⟨parts, rfl, eachDerives, splitsAll⟩ := ih
    refine ⟨(here, term) :: parts, rfl, List.forall_mem_cons.2 ⟨derives, eachDerives⟩, ?_⟩
    have all := splits.append splitsAll fun rest => separates.noSymbolAhead texts
    intro rest later longest tokenizes
    simpa [behind] using separates.splits _ _ (all rest later longest tokenizes)

/-- Parentheses around a first text and others behind a separator. -/
theorem parenthesized (separates : Separates separator tokens) {first : String} {row : List Token}
    (splits : SplitsInto first row) {texts : List String} {others : List Token}
    (splitsAll : SplitsInto (behind separator texts) others) :
    SplitsInto ("(" ++ first ++ behind separator texts ++ ")") (.opening :: (row ++ (others ++ [.closing]))) := by
  have parenthesis : isSymbolCharacter ')' = false := by decide
  have all := (splits.append splitsAll fun rest => separates.noSymbolAhead texts).opened.append
    splitsInto_closing fun rest _ => noSymbolAhead_cons parenthesis rest
  simpa [String.append_assoc] using all

end Separates

/-- **A surface list** spells what its head makes of the rest. -/
theorem Spells.surface {first : String} {texts : List String} {head term : Term} {arguments : List Term}
    (heads : Spells first head) (each : List.Forall₂ Spells texts arguments)
    (composes : Composes head arguments term) : Spells ("(" ++ first ++ behind " " texts ++ ")") term := by
  obtain ⟨tokens, derives, splits⟩ := heads
  obtain ⟨parts, rfl, eachDerives, splitsAll⟩ := separates_blank.exists_parts each
  exact ⟨_, .surface derives eachDerives composes, separates_blank.parenthesized splits splitsAll⟩

/-- **A canonical list** of one or more components spells the compound. -/
theorem Spells.canonical {name : String} {texts : List String} {components : List Term}
    (readable : ReadableName name) (nonempty : components ≠ []) (each : List.Forall₂ Spells texts components) :
    Spells ("(" ++ name ++ behind ", " texts ++ ")") (.compound name components) := by
  obtain ⟨token, names, splits⟩ := readable.spelled
  obtain ⟨parts, rfl, eachDerives, splitsAll⟩ := separates_comma.exists_parts each
  exact ⟨_, .canonical names (by simpa using nonempty) eachDerives,
    separates_comma.parenthesized splits splitsAll⟩

/-- An operator that a list of one token gives back. -/
theorem composes_bare {operator : String} (bare : operator = "*" ∨ operator ∈ specialHeads) :
    Composes (.atom operator) [] (.compound operator []) := by
  rcases bare with rfl | special
  · exact .product []
  · exact .special [] special

/-- **A compound in canonical text,** with or without components. -/
theorem Spells.compound {name : String} {texts : List String} {components : List Term}
    (readable : ReadableName name) (bare : components = [] → name = "*" ∨ name ∈ specialHeads)
    (each : List.Forall₂ Spells texts components) :
    Spells ("(" ++ name ++ behind ", " texts ++ ")") (.compound name components) := by
  cases each with
  | nil =>
    have spells := Spells.surface readable.spells .nil (composes_bare (bare rfl))
    simpa only [behind] using spells
  | cons first others => exact .canonical readable (by simp) (.cons first others)

end TermSpace.Reader
