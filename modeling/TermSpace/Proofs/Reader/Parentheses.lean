import TermSpace.Proofs.Reader.Concatenation

/-!
# Parentheses and their partners

Tokens are balanced if every parenthesis among them belongs to a pair (`Balanced`).  What stands between an
opening parenthesis and the closing one that is its partner is balanced, so that the tokens after an opening
parenthesis decide whether it is ever closed (`Closed`).  Among balanced tokens all are, and they close none
that was opened before (`Balanced.closed_of_split`, `Balanced.not_closed`).

The opening parentheses that some tokens leave without a partner are nested in one another.  Listed from the
innermost on, they are a stack: an opening parenthesis comes onto it, a closing one takes the innermost away,
and every other token leaves it as it is (`Unclosed`).

An opening parenthesis that scanning finds is one of the text, and scanning goes on behind it as at the start of a
text, so that a text is scanned on both sides of it separately (`scan_split`).
-/

namespace TermSpace.Reader

set_option autoImplicit false

/-! ## Pairs -/

/-- **Balanced tokens.** Every parenthesis among them belongs to a pair. -/
inductive Balanced : List Token → Prop where
  | nil : Balanced []
  | other {token : Token} {rest : List Token} (notOpening : token ≠ .opening)
      (notClosing : token ≠ .closing) (others : Balanced rest) : Balanced (token :: rest)
  | pair {inside rest : List Token} (within : Balanced inside) (others : Balanced rest) :
      Balanced (.opening :: (inside ++ .closing :: rest))

/-- The tokens after an opening parenthesis close it. -/
def Closed (after : List Token) : Prop :=
  ∃ inside rest, after = inside ++ .closing :: rest ∧ Balanced inside

theorem Closed.append {after : List Token} (closed : Closed after) (more : List Token) :
    Closed (after ++ more) := by
  obtain ⟨inside, rest, rfl, balanced⟩ := closed
  exact ⟨inside, rest ++ more, by simp, balanced⟩

namespace Balanced

theorem append {first second : List Token} (before : Balanced first) (after : Balanced second) :
    Balanced (first ++ second) := by
  induction before with
  | nil => exact after
  | other notOpening notClosing _ ih => exact .other notOpening notClosing ih
  | @pair inside rest within _ _ ih => simpa using Balanced.pair within ih

/-- There are as many closing parentheses as opening ones, and no more of them in front of any token. -/
theorem count_closing {tokens : List Token} (balanced : Balanced tokens) :
    tokens.count .closing = tokens.count .opening ∧
      ∀ first rest, tokens = first ++ rest → first.count .closing ≤ first.count .opening := by
  induction balanced with
  | nil =>
    refine ⟨rfl, fun first rest same => ?_⟩
    obtain ⟨rfl, -⟩ := List.append_eq_nil_iff.1 same.symm
    exact Nat.le_refl _
  | @other token tokens notOpening notClosing _ ih =>
    refine ⟨by simpa [notOpening, notClosing] using ih.1, fun first rest same => ?_⟩
    obtain ⟨rfl, -⟩ | ⟨front, rfl, tail⟩ := List.cons_eq_append_iff.1 same
    · exact Nat.le_refl _
    · simpa [notOpening, notClosing] using ih.2 front rest tail
  | @pair inside tokens _ _ ihInside ih =>
    obtain ⟨even, inFront⟩ := ihInside
    refine ⟨?_, fun first rest same => ?_⟩
    · simp only [ne_eq, reduceCtorEq, not_false_eq_true, List.count_cons_of_ne, List.count_append,
        List.count_cons_self, even, ih.1]
      omega
    obtain ⟨rfl, -⟩ | ⟨front, rfl, tail⟩ := List.cons_eq_append_iff.1 same
    · exact Nat.le_refl _
    obtain ⟨last, rfl, behind⟩ | ⟨last, rfl, -⟩ := List.append_eq_append_iff.1 tail
    · obtain ⟨rfl, -⟩ | ⟨last, rfl, others⟩ := List.cons_eq_append_iff.1 behind
      · simp [even]
      · have later := ih.2 last rest others
        simp only [ne_eq, reduceCtorEq, not_false_eq_true, List.count_cons_of_ne, List.count_append,
          List.count_cons_self, even]
        omega
    · have earlier := inFront front last rfl
      simp only [ne_eq, reduceCtorEq, not_false_eq_true, List.count_cons_of_ne, List.count_cons_self]
      omega

/-- Balanced tokens close nothing that was opened before. -/
theorem not_closed {tokens : List Token} (balanced : Balanced tokens) : ¬ Closed tokens := by
  rintro ⟨inside, rest, rfl, within⟩
  have inFront := balanced.count_closing.2 (inside ++ [.closing]) rest (by simp)
  rw [List.count_append, List.count_append, within.count_closing.1, List.count_singleton_self] at inFront
  exact absurd inFront (by simp)

/-- Among balanced tokens every opening parenthesis is closed. -/
theorem closed_of_split {tokens : List Token} (balanced : Balanced tokens) :
    ∀ earlier later, tokens = earlier ++ .opening :: later → Closed later := by
  induction balanced with
  | nil => simp
  | other notOpening _ _ ih =>
    intro earlier later same
    obtain ⟨rfl, here⟩ | ⟨front, rfl, tail⟩ := List.cons_eq_append_iff.1 same
    · exact absurd (List.cons.inj here).1.symm notOpening
    · exact ih front later tail
  | @pair inside rest within _ ihInside ih =>
    intro earlier later same
    obtain ⟨rfl, here⟩ | ⟨front, rfl, tail⟩ := List.cons_eq_append_iff.1 same
    · exact ⟨inside, rest, (List.cons.inj here).2, within⟩
    obtain ⟨last, rfl, behind⟩ | ⟨last, rfl, behind⟩ := List.append_eq_append_iff.1 tail
    · obtain ⟨-, here⟩ | ⟨last, rfl, others⟩ := List.cons_eq_append_iff.1 behind
      · cases here
      · exact ih last later others
    · obtain ⟨-, here⟩ | ⟨last, rfl, rfl⟩ := List.cons_eq_append_iff.1 behind
      · cases here
      · exact (ihInside front last rfl).append (.closing :: rest)

end Balanced

/-! ## What is left open -/

/-- **The opening parentheses that are never closed,** by the bytes where they stand, the innermost first. -/
inductive Unclosed : List Nat → List Placed → Prop where
  | none {row : List Placed} (balanced : Balanced (row.map Placed.token)) : Unclosed [] row
  | more {position : Nat} {outer : List Nat} {before after : List Placed} (others : Unclosed outer before)
      (balanced : Balanced (after.map Placed.token)) :
      Unclosed (position :: outer) (before ++ ⟨.opening, position⟩ :: after)

namespace Unclosed

variable {positions : List Nat} {row : List Placed}

/-- Balanced tokens leave nothing open and close nothing. -/
theorem append (account : Unclosed positions row) {more : List Placed}
    (balanced : Balanced (more.map Placed.token)) : Unclosed positions (row ++ more) := by
  cases account with
  | none before => exact .none (by simpa using before.append balanced)
  | more others after =>
    rw [List.append_assoc, List.cons_append]
    exact .more others (by simpa using after.append balanced)

/-- An opening parenthesis is the innermost. -/
theorem opening (account : Unclosed positions row) (position : Nat) :
    Unclosed (position :: positions) (row ++ [⟨.opening, position⟩]) := .more account .nil

/-- A closing parenthesis closes the innermost one. -/
theorem closing {position : Nat} (account : Unclosed (position :: positions) row) (closed : Nat) :
    Unclosed positions (row ++ [⟨.closing, closed⟩]) := by
  cases account with
  | @more _ _ before after others balanced =>
    rw [List.append_assoc, List.cons_append]
    refine others.append ?_
    simpa using Balanced.pair balanced .nil

/-- Every other token is neither. -/
theorem other (account : Unclosed positions row) {placed : Placed} (notOpening : placed.token ≠ .opening)
    (notClosing : placed.token ≠ .closing) : Unclosed positions (row ++ [placed]) :=
  account.append (.other notOpening notClosing .nil)

end Unclosed

/-! ## Where an opening parenthesis stands -/

/-- No opening parenthesis is among the tokens. -/
def NoOpening (row : List Placed) : Prop := ∀ placed ∈ row, placed.token ≠ .opening

/-- Tokens of which the first ones have no opening parenthesis among them: one that is found is found later. -/
theorem NoOpening.split {first others row rest : List Placed} (absent : NoOpening first) {opened : Nat}
    (same : first ++ others = row ++ ⟨.opening, opened⟩ :: rest) :
    ∃ later, row = first ++ later ∧ others = later ++ ⟨.opening, opened⟩ :: rest := by
  obtain ⟨later, rfl, found⟩ | ⟨last, rfl, found⟩ := List.append_eq_append_iff.1 same
  · exact ⟨later, rfl, found⟩
  · cases last with
    | nil => exact ⟨[], by simp, found.symm⟩
    | cons placed last =>
      rw [List.cons_append, List.cons.injEq] at found
      exact absurd (congrArg Placed.token found.1).symm (absent placed (by simp))

theorem noOpening_finish (mode : Mode) : NoOpening (finish mode) := by
  cases mode <;> simp [NoOpening, finish]

theorem begin_opening (position : Nat) (character : Char) :
    NoOpening (begin position character).1 ∨
      character = '(' ∧ begin position character = ([⟨.opening, position⟩], .between) := by
  by_cases row : isSymbolCharacter character = true
  · exact .inl (by simp [NoOpening, begin, row])
  · rcases eq_of_not_isSymbolCharacter (Bool.not_eq_true _ ▸ row) with
      blank | rfl | rfl | rfl | rfl | rfl
    · exact .inl (by simp [NoOpening, begin_blank position blank])
    · exact .inr ⟨rfl, rfl⟩
    · exact .inl (by simp [NoOpening, show begin position ')' = ([⟨.closing, position⟩], .between) from rfl])
    · exact .inl (by simp [NoOpening, show begin position ',' = ([⟨.comma, position⟩], .between) from rfl])
    · exact .inl (by simp [NoOpening, show begin position ';' = ([], .comment) from rfl])
    · exact .inl (by simp [NoOpening, show begin position '"' = ([], .literal position ['"'] false) from rfl])

/-- Scanning finds an opening parenthesis at a character that is one, and is between tokens after it. -/
theorem step_opening (mode : Mode) (position : Nat) (character : Char) :
    NoOpening (step mode position character).1 ∨
      character = '(' ∧
        step mode position character = (finish mode ++ [⟨.opening, position⟩], .between) := by
  cases mode with
  | between => exact begin_opening position character
  | comment => exact .inl (by simp [NoOpening, step])
  | symbol start collected =>
    rw [step]
    split
    · exact .inl (by simp [NoOpening])
    · rcases begin_opening position character with absent | ⟨here, begins⟩
      · exact .inl (by simpa [NoOpening] using absent)
      · exact .inr ⟨here, by rw [begins]; rfl⟩
  | literal start collected escaped =>
    refine .inl ?_
    cases escaped with
    | true => simp [NoOpening, step]
    | false =>
      rw [step]
      split
      · simp [NoOpening]
      · split <;> simp [NoOpening]

/-- What scanning finds up to an opening parenthesis it finds in the characters up to there, and the rest in
those behind it. -/
theorem scanFrom_split {opened : Nat} {rest : List Placed} : ∀ {characters : List Char} {mode : Mode}
    {position : Nat} {row : List Placed},
    scanFrom mode position characters = row ++ ⟨.opening, opened⟩ :: rest →
      ∃ before after, characters = before ++ '(' :: after ∧ opened = position + byteLength before ∧
        row = scanFrom mode position before ∧ rest = scanFrom .between (opened + 1) after
  | [], mode, position, row, found => by
    obtain ⟨later, -, nothing⟩ := (noOpening_finish mode).split (by rw [List.append_nil]; exact found)
    simp at nothing
  | character :: characters, mode, position, row, found => by
    rcases step_opening mode position character with absent | ⟨rfl, steps⟩
    · obtain ⟨later, rfl, inRest⟩ := absent.split found
      obtain ⟨before, after, rfl, rfl, rfl, rfl⟩ := scanFrom_split inRest
      exact ⟨character :: before, after, rfl, by rw [byteLength, Nat.add_assoc], rfl, rfl⟩
    · simp only [scanFrom, steps, List.append_assoc] at found
      obtain ⟨later, rfl, inRest⟩ := (noOpening_finish mode).split found
      cases later with
      | nil =>
        cases inRest
        exact ⟨[], characters, rfl, rfl, by simp [scanFrom], rfl⟩
      | cons placed later =>
        rw [List.singleton_append, List.cons_append, List.cons.injEq] at inRest
        obtain ⟨rfl, further⟩ := inRest
        obtain ⟨before, after, rfl, rfl, rfl, rfl⟩ := scanFrom_split further
        refine ⟨'(' :: before, after, rfl, by rw [byteLength, Nat.add_assoc], ?_, rfl⟩
        simp [scanFrom, steps]

/-- **An opening parenthesis splits a text.** Scanning finds it at the byte where it stands, and on both sides
of it what it finds there in a text of its own. -/
theorem scan_split {text : String} {opened : Nat} {row rest : List Placed}
    (found : scan text = row ++ ⟨.opening, opened⟩ :: rest) :
    ∃ before after : String, text = before ++ "(" ++ after ∧ opened = before.utf8ByteSize ∧
      row = scan before ∧ rest = shiftAll (opened + 1) (scan after) := by
  obtain ⟨before, after, split, rfl, rfl, rfl⟩ := scanFrom_split found
  refine ⟨String.ofList before, String.ofList after, ?_, ?_, ?_, ?_⟩
  · rw [← String.toList_inj]
    simp [split]
  · rw [utf8ByteSize_eq_byteLength, String.toList_ofList, Nat.zero_add]
  · rw [scan, String.toList_ofList]
  · have further := scanFrom_shift (0 + byteLength before + 1) after .between 0
    rw [Nat.zero_add (0 + byteLength before + 1)] at further
    rw [scan, String.toList_ofList]
    exact further

end TermSpace.Reader
