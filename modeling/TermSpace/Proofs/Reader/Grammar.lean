import TermSpace.Proofs.Reader.Tokenization
import TermSpace.Reader.Term

/-!
# The grammar of terms

A row of tokens derives a term by four rules: a symbol or a literal is an atom, empty parentheses are the
empty product, a list with a comma behind its first token is a compound with that token as its operator, and
a list without commas means what its head makes of it (`Derives`).

Reading a term accepts what the grammar derives and nothing else (`readTerm_eq_ok_iff`).  That what is derived
is read follows the derivation: with any parentheses open, reading goes through the tokens of a term and puts
the term where it stands (`readsThrough_of_derives`).  That what is read is derived follows the machine: the
open parentheses account for the tokens read so far, each for those since it was opened (`Opens`), and one
step of the machine keeps this account (`Reached.arrives_advance`).
-/

namespace TermSpace.Reader

set_option autoImplicit false

/-! ## The rules -/

/-- A token that is an atom by itself, with the name of the atom. -/
inductive Names : Token → String → Prop where
  | symbol (text : String) : Names (.symbol text) text
  | literal (text : String) : Names (.literal text) text

/-- **What a head makes of a list without commas.** A special head is the operator of a compound, `*` makes a
product, and every other head is applied. -/
inductive Composes : Term → List Term → Term → Prop where
  | special {name : String} (arguments : List Term) (special : name ∈ specialHeads) :
      Composes (.atom name) arguments (.compound name arguments)
  | product (arguments : List Term) : Composes (.atom "*") arguments (.product arguments)
  | application {head : Term} (arguments : List Term)
      (ordinary : ∀ name, head = .atom name → name ∉ specialHeads ∧ name ≠ "*") :
      Composes head arguments (.apply head arguments)

/-- The tokens of parts, each behind a comma. -/
def behindCommas (parts : List (List Token × Term)) : List Token :=
  parts.flatMap fun part => .comma :: part.1

/-- The tokens of parts, with nothing between. -/
def juxtaposed (parts : List (List Token × Term)) : List Token := parts.flatMap (·.1)

/-- **Derivations.** The tokens are those of a term. -/
inductive Derives : List Token → Term → Prop where
  | atom {token : Token} {name : String} (names : Names token name) : Derives [token] (.atom name)
  | empty : Derives [.opening, .closing] (.product [])
  | canonical {token : Token} {name : String} {parts : List (List Token × Term)}
      (names : Names token name) (nonempty : parts ≠ [])
      (each : ∀ part ∈ parts, Derives part.1 part.2) :
      Derives (.opening :: token :: (behindCommas parts ++ [.closing]))
        (.compound name (parts.map (·.2)))
  | surface {first : List Token} {head : Term} {parts : List (List Token × Term)} {term : Term}
      (heads : Derives first head) (each : ∀ part ∈ parts, Derives part.1 part.2)
      (composes : Composes head (parts.map (·.2)) term) :
      Derives (.opening :: (first ++ (juxtaposed parts ++ [.closing]))) term

/-- Every head makes one term of a list, the one that reading composes. -/
theorem composes_iff {head : Term} {arguments : List Term} {term : Term} :
    Composes head arguments term ↔ term = compose head arguments := by
  constructor
  · intro composes
    cases composes with
    | special arguments special => simp [compose, special]
    | product arguments => rfl
    | application arguments ordinary =>
      cases head with
      | compound operator components => rfl
      | atom name =>
        obtain ⟨notSpecial, notProduct⟩ := ordinary name rfl
        simp [compose, notSpecial, Term.productOperator, notProduct]
  · rintro rfl
    cases head with
    | compound operator components => exact .application arguments (by simp)
    | atom name =>
      rw [compose]
      split
      · next special => exact .special arguments (List.contains_iff_mem.1 special)
      · next notSpecial =>
        split
        · next product => exact product ▸ .product arguments
        · next notProduct =>
          refine .application arguments ?_
          rintro _ ⟨⟩
          exact ⟨fun special => notSpecial (List.contains_iff_mem.2 special), notProduct⟩

/-- Only a token by itself derives an atom. -/
theorem Derives.names_of_atom {tokens : List Token} {name : String}
    (derives : Derives tokens (.atom name)) : ∃ token, tokens = [token] ∧ Names token name := by
  cases derives with
  | atom names => exact ⟨_, rfl, names⟩
  | surface _ _ composes => cases composes

/-! ## What is derived is read -/

/-- Reading goes on with what a token has led to. -/
def resume (length : Nat) (rest : List Placed) : Progress → Except ReadError (Term × List Placed)
  | .reading stage => readFrom length stage rest
  | .done term => .ok (term, rest)

section Completeness

variable {length : Nat}

theorem readFrom_cons {stage : Stage} {placed : Placed} {progress : Progress} (rest : List Placed)
    (advances : advance stage placed = .ok progress) :
    readFrom length stage (placed :: rest) = resume length rest progress := by
  rw [readFrom, advances]
  cases progress <;> rfl

theorem readFrom_opening (frames : List Frame) (opened : Nat) (rest : List Placed) :
    readFrom length (.awaiting frames) (⟨.opening, opened⟩ :: rest) =
      readFrom length (.awaiting (.fresh opened :: frames)) rest := rfl

/-- Reading goes through the tokens and puts the term where it stands. -/
def ReadsThrough (length : Nat) (tokens : List Token) (term : Term) : Prop :=
  ∀ (row : List Placed), row.map Placed.token = tokens → ∀ (frames : List Frame) (rest : List Placed),
    readFrom length (.awaiting frames) (row ++ rest) = resume length rest (place term frames)

/-- A comma and a part become a component. -/
theorem readFrom_comma {tokens : List Token} {term : Term} {row : List Placed}
    (through : ReadsThrough length tokens term) (same : row.map Placed.token = .comma :: tokens)
    {stage : Stage} {opened : Nat} {name : String} {components : List Term} {outer : List Frame}
    (continues : ∀ position, advance stage ⟨.comma, position⟩ =
      .ok (.reading (.awaiting (.canonical opened name components :: outer))))
    (rest : List Placed) :
    readFrom length stage (row ++ rest) =
      readFrom length (.listed opened name (term :: components) outer) rest := by
  obtain ⟨⟨_, position⟩, row, rfl, rfl, sameRow⟩ := List.map_eq_cons_iff.1 same
  rw [List.cons_append, readFrom_cons _ (continues position)]
  exact through row sameRow _ rest

/-- Parts behind commas become components. -/
theorem readFrom_listed : ∀ {parts : List (List Token × Term)} {row : List Placed},
    (∀ part ∈ parts, ReadsThrough length part.1 part.2) → row.map Placed.token = behindCommas parts →
    ∀ (opened : Nat) (name : String) (components : List Term) (outer : List Frame)
      (rest : List Placed),
      readFrom length (.listed opened name components outer) (row ++ rest) =
        readFrom length
          (.listed opened name ((parts.map (·.2)).reverse ++ components) outer) rest
  | [], row, _, same, opened, name, components, outer, rest => by
    obtain rfl : row = [] := by simpa [behindCommas] using same
    rfl
  | part :: parts, row, each, same, opened, name, components, outer, rest => by
    rw [List.forall_mem_cons] at each
    rw [behindCommas, List.flatMap_cons] at same
    obtain ⟨here, later, rfl, sameHere, sameLater⟩ := List.map_eq_append_iff.1 same
    rw [List.append_assoc, readFrom_comma each.1 sameHere fun _ => rfl,
      readFrom_listed each.2 sameLater]
    simp

/-- Parts with nothing between become arguments. -/
theorem readFrom_juxtaposed : ∀ {parts : List (List Token × Term)} {row : List Placed},
    (∀ part ∈ parts, ReadsThrough length part.1 part.2) → row.map Placed.token = juxtaposed parts →
    ∀ (opened : Nat) (head : Term) (arguments : List Term) (outer : List Frame)
      (rest : List Placed),
      readFrom length (.awaiting (.surface opened head arguments :: outer)) (row ++ rest) =
        readFrom length
          (.awaiting (.surface opened head ((parts.map (·.2)).reverse ++ arguments) :: outer)) rest
  | [], row, _, same, opened, head, arguments, outer, rest => by
    obtain rfl : row = [] := by simpa [juxtaposed] using same
    rfl
  | part :: parts, row, each, same, opened, head, arguments, outer, rest => by
    rw [List.forall_mem_cons] at each
    rw [juxtaposed, List.flatMap_cons] at same
    obtain ⟨here, later, rfl, sameHere, sameLater⟩ := List.map_eq_append_iff.1 same
    rw [List.append_assoc, each.1 here sameHere, place, resume, readFrom_juxtaposed each.2 sameLater]
    simp

/-- A token that is an atom by itself. -/
theorem Names.readsThrough {token : Token} {name : String} (names : Names token name) :
    ReadsThrough length [token] (.atom name) := by
  intro row same frames rest
  obtain ⟨⟨token, position⟩, rfl, rfl⟩ := List.map_eq_singleton_iff.1 same
  cases names <;> exact readFrom_cons rest rfl

/-- Tokens in parentheses. -/
theorem exists_inside {row : List Placed} {tokens : List Token}
    (same : row.map Placed.token = .opening :: (tokens ++ [.closing])) :
    ∃ opened inside closed, row = ⟨.opening, opened⟩ :: (inside ++ [⟨.closing, closed⟩]) ∧
      inside.map Placed.token = tokens := by
  obtain ⟨⟨_, opened⟩, row, rfl, rfl, sameRow⟩ := List.map_eq_cons_iff.1 same
  obtain ⟨inside, last, rfl, sameInside, sameLast⟩ := List.map_eq_append_iff.1 sameRow
  obtain ⟨⟨_, closed⟩, rfl, rfl⟩ := List.map_eq_singleton_iff.1 sameLast
  exact ⟨opened, inside, closed, rfl, sameInside⟩

/-- **What is derived is read.** -/
theorem readsThrough_of_derives {tokens : List Token} {term : Term} (derives : Derives tokens term) :
    ReadsThrough length tokens term := by
  induction derives with
  | atom names => exact names.readsThrough
  | empty =>
    intro row same frames rest
    have parenthesized : row.map Placed.token = .opening :: ([] ++ [.closing]) := same
    obtain ⟨opened, inside, closed, rfl, sameInside⟩ := exists_inside parenthesized
    obtain rfl : inside = [] := by simpa using sameInside
    rw [List.nil_append, List.cons_append, readFrom_opening]
    exact readFrom_cons rest rfl
  | @canonical token name parts names nonempty each ih =>
    intro row same frames rest
    have parenthesized :
        row.map Placed.token = .opening :: ((token :: behindCommas parts) ++ [.closing]) := same
    obtain ⟨opened, inside, closed, rfl, sameInside⟩ := exists_inside parenthesized
    obtain ⟨operator, behind, rfl, rfl, sameBehind⟩ := List.map_eq_cons_iff.1 sameInside
    cases parts with
    | nil => exact absurd rfl nonempty
    | cons part parts =>
      rw [List.forall_mem_cons] at ih
      rw [behindCommas, List.flatMap_cons] at sameBehind
      obtain ⟨here, later, rfl, sameHere, sameLater⟩ := List.map_eq_append_iff.1 sameBehind
      calc readFrom length (.awaiting frames)
            (⟨.opening, opened⟩ :: (operator :: (here ++ later) ++ [⟨.closing, closed⟩]) ++ rest)
        _ = readFrom length (.awaiting (.surface opened (.atom name) [] :: frames))
            (here ++ (later ++ ⟨.closing, closed⟩ :: rest)) := by
          simp only [List.cons_append, List.append_assoc, List.nil_append, readFrom_opening]
          exact names.readsThrough [operator] rfl _ _
        _ = readFrom length (.listed opened name ((parts.map (·.2)).reverse ++ [part.2]) frames)
            (⟨.closing, closed⟩ :: rest) := by
          rw [readFrom_comma ih.1 sameHere fun _ => rfl, readFrom_listed ih.2 sameLater]
        _ = resume length rest (place (.compound name ((part :: parts).map (·.2))) frames) := by
          refine readFrom_cons rest ?_
          simp [advance]
  | @surface first head parts term heads each composes ihHead ih =>
    intro row same frames rest
    obtain rfl := composes_iff.1 composes
    rw [← List.append_assoc] at same
    obtain ⟨opened, inside, closed, rfl, sameInside⟩ := exists_inside same
    obtain ⟨here, later, rfl, sameHere, sameLater⟩ := List.map_eq_append_iff.1 sameInside
    calc readFrom length (.awaiting frames)
          (⟨.opening, opened⟩ :: (here ++ later ++ [⟨.closing, closed⟩]) ++ rest)
      _ = readFrom length (.awaiting (.fresh opened :: frames))
          (here ++ (later ++ ⟨.closing, closed⟩ :: rest)) := by
        simp only [List.cons_append, List.append_assoc, List.nil_append, readFrom_opening]
      _ = readFrom length (.awaiting (.surface opened head [] :: frames))
          (later ++ ⟨.closing, closed⟩ :: rest) := ihHead here sameHere _ _
      _ = readFrom length
          (.awaiting (.surface opened head ((parts.map (·.2)).reverse ++ []) :: frames))
          (⟨.closing, closed⟩ :: rest) := readFrom_juxtaposed ih sameLater ..
      _ = resume length rest (place (compose head (parts.map (·.2))) frames) := by
        refine readFrom_cons rest ?_
        simp [advance, close?]

end Completeness

/-! ## What is read is derived -/

/-- **What an open parenthesis accounts for:** the tokens from it on, up to where the next term starts. -/
inductive Opens : Frame → List Token → Prop where
  | fresh (opened : Nat) : Opens (.fresh opened) [.opening]
  | surface (opened : Nat) {first : List Token} {head : Term} {parts : List (List Token × Term)}
      (heads : Derives first head) (each : ∀ part ∈ parts, Derives part.1 part.2) :
      Opens (.surface opened head (parts.map (·.2)).reverse)
        (.opening :: (first ++ juxtaposed parts))
  | canonical (opened : Nat) {token : Token} {name : String} {parts : List (List Token × Term)}
      (names : Names token name) (each : ∀ part ∈ parts, Derives part.1 part.2) :
      Opens (.canonical opened name (parts.map (·.2)).reverse)
        (.opening :: token :: (behindCommas parts ++ [.comma]))

/-- What all open parentheses account for, the innermost last. -/
inductive OpensAll : List Frame → List Token → Prop where
  | nil : OpensAll [] []
  | cons {frame : Frame} {outer : List Frame} {before inside : List Token}
      (others : OpensAll outer before) (innermost : Opens frame inside) :
      OpensAll (frame :: outer) (before ++ inside)

/-- The tokens that a stage of reading is reached by. -/
inductive Reached : Stage → List Token → Prop where
  | awaiting {frames : List Frame} {read : List Token} (account : OpensAll frames read) :
      Reached (.awaiting frames) read
  | listed (opened : Nat) {outer : List Frame} {before : List Token} {token : Token} {name : String}
      {parts : List (List Token × Term)} (account : OpensAll outer before) (names : Names token name)
      (nonempty : parts ≠ []) (each : ∀ part ∈ parts, Derives part.1 part.2) :
      Reached (.listed opened name (parts.map (·.2)).reverse outer)
        (before ++ .opening :: token :: behindCommas parts)

/-- The tokens that have led to some progress. -/
def Arrives : Progress → List Token → Prop
  | .reading stage, read => Reached stage read
  | .done term, read => Derives read term

/-- One derived part more. -/
theorem derives_append {parts : List (List Token × Term)} {tokens : List Token} {term : Term}
    (each : ∀ part ∈ parts, Derives part.1 part.2) (derives : Derives tokens term) :
    ∀ part ∈ parts ++ [(tokens, term)], Derives part.1 part.2 := by
  intro part member
  rcases List.mem_append.1 member with before | last
  · exact each part before
  · obtain rfl := List.mem_singleton.1 last
    exact derives

/-- **A derived term goes where it stands.** -/
theorem OpensAll.arrives_place {frames : List Frame} {before tokens : List Token} {term : Term}
    (account : OpensAll frames before) (derives : Derives tokens term) :
    Arrives (place term frames) (before ++ tokens) := by
  cases account with
  | nil => exact derives
  | @cons frame outer before inside others innermost =>
    cases innermost with
    | fresh opened =>
      have each : ∀ part ∈ ([] : List (List Token × Term)), Derives part.1 part.2 := by simp
      have reached := Reached.awaiting (others.cons (.surface opened derives each))
      simpa [Arrives, place, juxtaposed] using reached
    | @surface opened first head parts heads each =>
      have reached :=
        Reached.awaiting (others.cons (.surface opened heads (derives_append each derives)))
      simpa [Arrives, place, juxtaposed] using reached
    | @canonical opened token name parts names each =>
      have reached := Reached.listed opened others names (by simp) (derives_append each derives)
      simpa [Arrives, place, behindCommas] using reached

/-- A comma makes a list canonical only if there is nothing but an atom in it. -/
theorem continue?_eq_some {opened : Nat} {head : Term} {arguments : List Term} {outer : List Frame}
    {next : Stage} (continues : continue? (.surface opened head arguments :: outer) = some next) :
    ∃ name, head = .atom name ∧ arguments = [] ∧
      next = .awaiting (.canonical opened name [] :: outer) := by
  cases head with
  | compound operator components => cases continues
  | atom name =>
    cases arguments with
    | nil =>
      cases continues
      exact ⟨name, rfl, rfl, rfl⟩
    | cons argument arguments => cases continues

/-- **One step of the machine** keeps the account. -/
theorem Reached.arrives_advance {stage : Stage} {read : List Token} (reached : Reached stage read)
    {placed : Placed} {progress : Progress} (advances : advance stage placed = .ok progress) :
    Arrives progress (read ++ [placed.token]) := by
  obtain ⟨token, position⟩ := placed
  cases reached with
  | @awaiting frames _ account =>
    cases token with
    | symbol text =>
      cases advances
      exact account.arrives_place (.atom (.symbol text))
    | literal text =>
      cases advances
      exact account.arrives_place (.atom (.literal text))
    | opening =>
      cases advances
      exact .awaiting (account.cons (.fresh position))
    | closing =>
      cases account with
      | nil => cases advances
      | @cons frame outer before inside others innermost =>
        cases innermost with
        | fresh opened =>
          cases advances
          simpa using others.arrives_place .empty
        | @surface opened first head parts heads each =>
          cases advances
          have derives := Derives.surface heads each (composes_iff.2 rfl)
          simpa using others.arrives_place derives
        | canonical => cases advances
    | comma =>
      cases account with
      | nil => cases advances
      | @cons frame outer before inside others innermost =>
        cases innermost with
        | fresh => cases advances
        | canonical => cases advances
        | @surface opened first head parts heads each =>
          dsimp only [advance] at advances
          split at advances
          · next next continues =>
            cases advances
            obtain ⟨name, rfl, none, rfl⟩ := continue?_eq_some continues
            obtain rfl : parts = [] := by simpa using none
            obtain ⟨token, rfl, names⟩ := heads.names_of_atom
            have reached := Reached.awaiting (others.cons (.canonical opened names each))
            simpa [Arrives, juxtaposed, behindCommas] using reached
          · cases advances
    | unfinished => cases advances
  | @listed opened outer before token' name parts account names nonempty each =>
    cases token with
    | comma =>
      cases advances
      have reached := Reached.awaiting (account.cons (.canonical opened names each))
      simpa [Arrives] using reached
    | closing =>
      cases advances
      simpa using account.arrives_place (.canonical names nonempty each)
    | symbol => cases advances
    | literal => cases advances
    | opening => cases advances
    | unfinished => cases advances

/-- **What is read is derived.** The tokens that have been read and those that reading takes are a term's. -/
theorem derives_of_readFrom {length : Nat} : ∀ {row rest : List Placed} {stage : Stage}
    {read : List Token} {term : Term}, Reached stage read →
      readFrom length stage row = .ok (term, rest) →
      ∃ taken, row = taken ++ rest ∧ Derives (read ++ taken.map Placed.token) term
  | [], rest, stage, read, term, _, outcome => by cases outcome
  | placed :: row, rest, stage, read, term, reached, outcome => by
    rw [readFrom] at outcome
    cases advances : advance stage placed with
    | error problem => simp [advances] at outcome
    | ok progress =>
      have arrives := reached.arrives_advance advances
      rw [advances] at outcome
      cases progress with
      | done result =>
        cases outcome
        exact ⟨[placed], rfl, arrives⟩
      | reading next =>
        obtain ⟨taken, rfl, derives⟩ := derives_of_readFrom arrives outcome
        exact ⟨placed :: taken, rfl, by simpa using derives⟩

/-! ## Texts -/

/-- Terms have tokens, and all of them are finished. -/
theorem Derives.finished {tokens : List Token} {term : Term} (derives : Derives tokens term) :
    tokens ≠ [] ∧ .unfinished ∉ tokens := by
  induction derives with
  | atom names => cases names <;> simp
  | empty => simp
  | @canonical token name parts names _ _ ih =>
    have inside : ∀ part ∈ parts, .unfinished ∉ part.1 := fun part member => (ih part member).2
    cases names <;> simpa [behindCommas] using inside
  | @surface first head parts term _ _ _ ihHead ih =>
    have inside : ∀ part ∈ parts, .unfinished ∉ part.1 := fun part member => (ih part member).2
    simpa [juxtaposed, ihHead.2] using inside

/-- **A text is read as a term exactly if its tokens derive the term.** -/
theorem readTerm_eq_ok_iff {text : String} {term : Term} :
    readTerm text = .ok term ↔
      ∃ tokens, Tokenizes text.toList tokens ∧ Derives tokens term := by
  constructor
  · intro outcome
    cases scanned : scan text with
    | nil => simp [readTerm, scanned] at outcome
    | cons placed row =>
      simp only [readTerm, scanned] at outcome
      split at outcome
      · cases outcome
      · next read =>
        cases outcome
        obtain ⟨taken, all, derives⟩ := derives_of_readFrom (.awaiting .nil) read
        rw [List.append_nil] at all
        rw [List.nil_append, ← all, ← scanned] at derives
        exact ⟨_, tokenizes_iff.2 ⟨rfl, derives.finished.2⟩, derives⟩
      · cases outcome
  · rintro ⟨tokens, tokenizes, derives⟩
    obtain ⟨same, _⟩ := tokenizes_iff.1 tokenizes
    cases scanned : scan text with
    | nil =>
      rw [scanned] at same
      exact absurd same.symm derives.finished.1
    | cons placed row =>
      rw [scanned] at same
      have read : readFrom text.utf8ByteSize .start (placed :: row ++ []) = .ok (term, []) :=
        readsThrough_of_derives derives (placed :: row) same [] []
      rw [List.append_nil] at read
      simp only [readTerm, scanned, read]

/-- Texts with the same tokens are read alike. -/
theorem readTerm_ok_congr {first second : String} {term : Term}
    (same : ∀ tokens, Tokenizes first.toList tokens ↔ Tokenizes second.toList tokens) :
    readTerm first = .ok term ↔ readTerm second = .ok term := by
  simp only [readTerm_eq_ok_iff, same]

/-- **The grammar of terms.** A text is read as a term exactly if it has a tokenization that derives the term.
There is at most one tokenization, and it is all that reading depends on: texts with the same tokens are read
as the same term, or neither is read. -/
theorem readTerm_grammar :
    (∀ (text : String) (term : Term),
      readTerm text = .ok term ↔ ∃ tokens, Tokenizes text.toList tokens ∧ Derives tokens term) ∧
    (∀ (text : String) (tokens others : List Token),
      Tokenizes text.toList tokens → Tokenizes text.toList others → tokens = others) ∧
    ∀ first second : String,
      (∀ tokens, Tokenizes first.toList tokens ↔ Tokenizes second.toList tokens) →
        (readTerm first).toOption = (readTerm second).toOption := by
  refine ⟨fun _ _ => readTerm_eq_ok_iff, fun _ _ _ => Tokenizes.unique, fun first second same => ?_⟩
  cases one : readTerm first with
  | ok term => rw [(readTerm_ok_congr same).1 one]
  | error problem =>
    cases other : readTerm second with
    | error otherProblem => rfl
    | ok term =>
      have read := (readTerm_ok_congr same).2 other
      simp [one] at read

/-- Blanks and a comment between the tokens of a list change nothing. -/
theorem readTerm_grammar_spaced :
    Tokenizes "(f, a)".toList [.opening, .symbol "f", .comma, .symbol "a", .closing] ∧
    Derives [.opening, .symbol "f", .comma, .symbol "a", .closing] (.compound "f" [.atom "a"]) ∧
    (readTerm "( f ;c\n ,a )").toOption = (readTerm "(f, a)").toOption := by
  have plain : Tokenizes "(f, a)".toList [.opening, .symbol "f", .comma, .symbol "a", .closing] :=
    tokenizes_iff.2 (by decide)
  have spaced :
      Tokenizes "( f ;c\n ,a )".toList [.opening, .symbol "f", .comma, .symbol "a", .closing] :=
    tokenizes_iff.2 (by decide)
  obtain ⟨accepts, unique, alike⟩ := readTerm_grammar
  obtain ⟨tokens, tokenizes, derives⟩ := (accepts "(f, a)" (.compound "f" [.atom "a"])).1 rfl
  obtain rfl := unique _ _ _ tokenizes plain
  refine ⟨plain, derives, alike _ _ fun tokens => ⟨fun other => ?_, fun other => ?_⟩⟩
  · exact unique _ _ _ spaced other ▸ plain
  · exact unique _ _ _ plain other ▸ spaced

end TermSpace.Reader
