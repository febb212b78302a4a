import TermSpace.Proofs.Reader.Grammar
import TermSpace.Proofs.Reader.Parentheses

/-!
# Texts that only lack closing parentheses

A text that ends inside of parentheses may be the start of a term, or may be spoiled already: by a comma that
nothing follows, by a literal without an end, by a token that cannot stand where it does.  Reading tells the two
apart.  It reports a parenthesis that is never closed exactly if some number of closing ones, on a new line, make
a term of the text; there is one such number, and the parenthesis is the innermost of those that are never closed
(`readTerm_unbalanced`).

At the end of the text the machine is in a stage.  From some stages, the *closable* ones, a closing parenthesis
leads to a term or to a closable stage with one open parenthesis less, and from all others it leads nowhere
(`Stage.Closable.advance_closing`, `advance_closing_of_not_closable`).  Closable stages are those in which the end
of the text is reported as an open parenthesis (`Stage.endError_eq_unbalanced_iff`).
-/

namespace TermSpace.Reader

set_option autoImplicit false

/-! ## Closable stages -/

/-- The byte where an open parenthesis stands. -/
def Frame.opened : Frame → Nat
  | .fresh opened => opened
  | .surface opened _ _ => opened
  | .canonical opened _ _ => opened

/-- The bytes where the open parentheses stand, the innermost first. -/
def Stage.opened : Stage → List Nat
  | .awaiting frames => frames.map Frame.opened
  | .listed opened _ _ outer => opened :: outer.map Frame.opened

/-- **Closable stages.** The innermost parenthesis may be closed: nothing is missing in it. -/
inductive Stage.Closable : Stage → Prop where
  | fresh (opened : Nat) (outer : List Frame) : Closable (.awaiting (.fresh opened :: outer))
  | surface (opened : Nat) (head : Term) (arguments : List Term) (outer : List Frame) :
      Closable (.awaiting (.surface opened head arguments :: outer))
  | listed (opened : Nat) (operator : String) (components : List Term) (outer : List Frame) :
      Closable (.listed opened operator components outer)

/-- The end of a text is reported as an open parenthesis in closable stages only, and it is the innermost. -/
theorem Stage.endError_eq_unbalanced_iff {stage : Stage} {length position : Nat} :
    stage.endError length = .unbalanced position ↔
      stage.Closable ∧ ∃ outer, stage.opened = position :: outer := by
  constructor
  · intro ends
    cases stage with
    | listed opened operator components outer =>
      cases ends
      exact ⟨.listed .., _, rfl⟩
    | awaiting frames =>
      cases frames with
      | nil => cases ends
      | cons frame outer =>
        cases frame with
        | fresh opened =>
          cases ends
          exact ⟨.fresh .., _, rfl⟩
        | surface opened head arguments =>
          cases ends
          exact ⟨.surface .., _, rfl⟩
        | canonical opened operator components => cases ends
  · rintro ⟨closable, outer, innermost⟩
    cases closable <;> cases innermost <;> rfl

/-- A term that is complete is all there is to read, or its place is in a parenthesis that may be closed. -/
theorem place_spec (term : Term) (frames : List Frame) :
    (frames = [] ∧ place term frames = .done term) ∨
      ∃ next, place term frames = .reading next ∧ next.Closable ∧
        next.opened = frames.map Frame.opened := by
  cases frames with
  | nil => exact .inl ⟨rfl, rfl⟩
  | cons frame outer =>
    cases frame with
    | fresh opened => exact .inr ⟨_, rfl, .surface .., rfl⟩
    | surface opened head arguments => exact .inr ⟨_, rfl, .surface .., rfl⟩
    | canonical opened operator components => exact .inr ⟨_, rfl, .listed .., rfl⟩

/-- **A closing parenthesis in a closable stage** closes the innermost one. -/
theorem Stage.Closable.advance_closing {stage : Stage} (closable : stage.Closable) (position : Nat) :
    (∃ term opened, advance stage ⟨.closing, position⟩ = .ok (.done term) ∧ stage.opened = [opened]) ∨
      ∃ next opened, advance stage ⟨.closing, position⟩ = .ok (.reading next) ∧ next.Closable ∧
        stage.opened = opened :: next.opened := by
  have closes : ∃ term opened outer, stage.opened = opened :: outer.map Frame.opened ∧
      advance stage ⟨.closing, position⟩ = .ok (place term outer) := by
    cases closable with
    | fresh opened outer => exact ⟨.product [], opened, outer, rfl, rfl⟩
    | surface opened head arguments outer =>
      exact ⟨compose head arguments.reverse, opened, outer, rfl, rfl⟩
    | listed opened operator components outer =>
      exact ⟨.compound operator components.reverse, opened, outer, rfl, rfl⟩
  obtain ⟨term, opened, outer, before, advances⟩ := closes
  rcases place_spec term outer with ⟨rfl, done⟩ | ⟨next, reading, closableNext, after⟩
  · exact .inl ⟨term, opened, by rw [advances, done], before⟩
  · exact .inr ⟨next, opened, by rw [advances, reading], closableNext, by rw [before, after]⟩

/-- In all other stages a closing parenthesis cannot stand. -/
theorem advance_closing_of_not_closable {stage : Stage} (notClosable : ¬ stage.Closable) (position : Nat) :
    advance stage ⟨.closing, position⟩ = .error (unexpectedToken ⟨.closing, position⟩) := by
  cases stage with
  | listed opened operator components outer => exact absurd (.listed ..) notClosable
  | awaiting frames =>
    cases frames with
    | nil => rfl
    | cons frame outer =>
      cases frame with
      | fresh opened => exact absurd (.fresh ..) notClosable
      | surface opened head arguments => exact absurd (.surface ..) notClosable
      | canonical opened operator components => rfl

/-- A comma after the first term keeps the parenthesis open. -/
theorem continue?_opened {frames : List Frame} {next : Stage} (continues : continue? frames = some next) :
    next.opened = frames.map Frame.opened := by
  unfold continue? at continues
  split at continues <;> cases continues
  rfl

/-- **One token** opens or closes the parenthesis that it is, and no other. -/
theorem Unclosed.advance {stage next : Stage} {row : List Placed} (account : Unclosed stage.opened row)
    {placed : Placed} (advances : Reader.advance stage placed = .ok (.reading next)) :
    Unclosed next.opened (row ++ [placed]) := by
  obtain ⟨token, position⟩ := placed
  have placed_opened : ∀ {term : Term} {frames : List Frame},
      place term frames = .reading next → next.opened = frames.map Frame.opened := by
    intro term frames places
    rcases place_spec term frames with ⟨-, done⟩ | ⟨other, reading, -, opened⟩
    · rw [done] at places
      cases places
    · rw [reading] at places
      cases places
      exact opened
  cases token with
  | symbol text =>
    cases stage with
    | listed => cases advances
    | awaiting frames =>
      rw [placed_opened (Except.ok.inj advances)]
      exact account.other nofun nofun
  | literal text =>
    cases stage with
    | listed => cases advances
    | awaiting frames =>
      rw [placed_opened (Except.ok.inj advances)]
      exact account.other nofun nofun
  | opening =>
    cases stage with
    | listed => cases advances
    | awaiting frames =>
      cases advances
      exact account.opening position
  | closing =>
    by_cases closable : stage.Closable
    · rcases closable.advance_closing position with ⟨term, -, done, -⟩ | ⟨other, opened, reading, -, before⟩
      · rw [done] at advances
        cases advances
      · rw [reading] at advances
        cases advances
        rw [before] at account
        exact account.closing position
    · rw [advance_closing_of_not_closable closable] at advances
      cases advances
  | comma =>
    cases stage with
    | listed =>
      cases advances
      exact account.other nofun nofun
    | awaiting frames =>
      simp only [Reader.advance] at advances
      split at advances <;> cases advances
      rw [continue?_opened ‹_›]
      exact account.other nofun nofun
  | unfinished => cases stage <;> cases advances

/-! ## Runs of the machine -/

/-- The tokens lead from one stage of reading to another. -/
inductive Leads : Stage → List Placed → Stage → Prop where
  | here (stage : Stage) : Leads stage [] stage
  | step {stage next last : Stage} {placed : Placed} {rest : List Placed}
      (advances : advance stage placed = .ok (.reading next)) (goesOn : Leads next rest last) :
      Leads stage (placed :: rest) last

namespace Leads

variable {stage last : Stage} {row : List Placed}

theorem readFrom_append (leads : Leads stage row last) (length : Nat) (more : List Placed) :
    readFrom length stage (row ++ more) = readFrom length last more := by
  induction leads with
  | here => rfl
  | step advances _ ih => rw [List.cons_append, readFrom, advances, ← ih]

theorem unique (leads : Leads stage row last) {other : Stage} (leadsOther : Leads stage row other) :
    last = other := by
  induction leads with
  | here =>
    cases leadsOther
    rfl
  | step advances _ ih =>
    cases leadsOther with
    | step advancesOther goesOn =>
      rw [advances] at advancesOther
      cases advancesOther
      exact ih goesOn

/-- No literal on the way is unfinished. -/
theorem finished (leads : Leads stage row last) : .unfinished ∉ row.map Placed.token := by
  induction leads with
  | here => simp
  | @step stage next last placed rest advances _ ih =>
    rw [List.map_cons, List.mem_cons, not_or]
    refine ⟨fun unfinished => ?_, ih⟩
    obtain ⟨token, position⟩ := placed
    obtain rfl : .unfinished = token := unfinished
    cases stage <;> cases advances

/-- **The parentheses that are open at the end** are those that the tokens leave open. -/
theorem unclosed (leads : Leads stage row last) :
    ∀ {before : List Placed}, Unclosed stage.opened before → Unclosed last.opened (before ++ row) := by
  induction leads with
  | here => simp
  | step advances _ ih =>
    intro before account
    simpa using ih (account.advance advances)

end Leads

/-- Tokens lead to a stage, or there is a first one that cannot stand where it does, or a term is complete before
the last of them.  What may come after them then makes no difference. -/
theorem leads_or_settled (stage : Stage) (row : List Placed) :
    (∃ last, Leads stage row last) ∨
      (∃ position found, ∀ length more,
        readFrom length stage (row ++ more) = .error (.unexpected position found)) ∨
      ∃ term rest, ∀ length more, readFrom length stage (row ++ more) = .ok (term, rest ++ more) := by
  induction row generalizing stage with
  | nil => exact .inl ⟨stage, .here stage⟩
  | cons placed row ih =>
    cases advances : advance stage placed with
    | error problem =>
      obtain ⟨position, found, rfl⟩ := advance_eq_error advances
      exact .inr (.inl ⟨position, found, fun length more => by rw [List.cons_append, readFrom, advances]⟩)
    | ok progress =>
      cases progress with
      | done term =>
        exact .inr (.inr ⟨term, row, fun length more => by rw [List.cons_append, readFrom, advances]⟩)
      | reading next =>
        have steps : ∀ length more,
            readFrom length stage (placed :: row ++ more) = readFrom length next (row ++ more) :=
          fun length more => by rw [List.cons_append, readFrom, advances]
        simp only [steps]
        refine (ih next).imp_left ?_
        rintro ⟨last, leads⟩
        exact ⟨last, .step advances leads⟩

/-- **Closing parentheses make a term of a closable stage,** if they are as many as are open. -/
theorem readFrom_closings {length : Nat} {row : List Placed} :
    ∀ {stage : Stage}, (∀ placed ∈ row, placed.token = .closing) →
      ((∃ term, readFrom length stage row = .ok (term, [])) ↔
        stage.Closable ∧ stage.opened.length = row.length) := by
  induction row with
  | nil =>
    intro stage _
    constructor
    · rintro ⟨term, reads⟩
      cases reads
    · rintro ⟨closable, none⟩
      cases closable <;> cases none
  | cons placed row ih =>
    intro stage closings
    obtain ⟨here, later⟩ := List.forall_mem_cons.1 closings
    obtain ⟨token, position⟩ := placed
    obtain rfl : token = .closing := here
    by_cases closable : stage.Closable
    · rcases closable.advance_closing position with
        ⟨term, opened, done, before⟩ | ⟨next, opened, reading, closableNext, before⟩
      · simp [readFrom, done, before, closable]
      · simp only [readFrom, reading, ih later, closable, closableNext, before, List.length_cons,
          Nat.add_right_cancel_iff]
    · simp [readFrom, advance_closing_of_not_closable closable, closable]

/-! ## Texts -/

/-- A text is read as a term if the machine reads it and has no token left. -/
theorem readTerm_eq_ok_iff_readFrom {text : String} {term : Term} :
    readTerm text = .ok term ↔ readFrom text.utf8ByteSize .start (scan text) = .ok (term, []) := by
  rw [readTerm]
  cases scan text with
  | nil => simp [readFrom]
  | cons placed row =>
    dsimp only
    rcases readFrom text.utf8ByteSize .start (placed :: row) with problem | ⟨result, _ | ⟨left, rest⟩⟩ <;>
      simp

/-- A parenthesis is reported as never closed if the machine reports it. -/
theorem readTerm_eq_unbalanced_iff_readFrom {text : String} {position : Nat} :
    readTerm text = .error (.unbalanced position) ↔
      readFrom text.utf8ByteSize .start (scan text) = .error (.unbalanced position) := by
  rw [readTerm]
  cases scan text with
  | nil => simp [readFrom, Stage.start, Stage.endError]
  | cons placed row =>
    dsimp only
    rcases readFrom text.utf8ByteSize .start (placed :: row) with problem | ⟨result, _ | ⟨left, rest⟩⟩ <;>
      simp [unexpectedToken]

/-- **A parenthesis is reported as never closed** if the text leads to a closable stage, and it is the innermost
one there. -/
theorem readTerm_eq_unbalanced_iff {text : String} {position : Nat} :
    readTerm text = .error (.unbalanced position) ↔
      ∃ last outer, Leads .start (scan text) last ∧ last.Closable ∧ last.opened = position :: outer := by
  rw [readTerm_eq_unbalanced_iff_readFrom]
  constructor
  · intro fails
    have whole : ∀ row : List Placed, row ++ [] = row := fun _ => List.append_nil _
    obtain ⟨last, leads⟩ | ⟨_, _, stops⟩ | ⟨_, _, stops⟩ := leads_or_settled .start (scan text)
    · have ends := leads.readFrom_append text.utf8ByteSize []
      rw [whole, fails, readFrom, Except.error.injEq, eq_comm, Stage.endError_eq_unbalanced_iff] at ends
      obtain ⟨closable, outer, innermost⟩ := ends
      exact ⟨last, outer, leads, closable, innermost⟩
    · have stopped := stops text.utf8ByteSize []
      rw [whole, fails] at stopped
      cases stopped
    · have stopped := stops text.utf8ByteSize []
      rw [whole, fails] at stopped
      cases stopped
  · rintro ⟨last, outer, leads, closable, innermost⟩
    have ends := leads.readFrom_append text.utf8ByteSize []
    rw [List.append_nil, readFrom, Stage.endError_eq_unbalanced_iff.2 ⟨closable, outer, innermost⟩] at ends
    exact ends

/-! ## Closing parentheses on a new line -/

/-- So many closing parentheses on a new line after a text. -/
def closedBy (count : Nat) (text : String) : String := text ++ "\n" ++ String.ofList (List.replicate count ')')

theorem scanFrom_closings (count : Nat) : ∀ position : Nat,
    (scanFrom .between position (List.replicate count ')')).length = count ∧
      ∀ placed ∈ scanFrom .between position (List.replicate count ')'), placed.token = .closing := by
  induction count with
  | zero => exact fun _ => ⟨rfl, nofun⟩
  | succ count ih =>
    intro position
    obtain ⟨length, each⟩ := ih (position + 1)
    exact ⟨congrArg Nat.succ length, List.forall_mem_cons.2 ⟨rfl, each⟩⟩

/-- A literal without an end has none in characters that are not quotes. -/
theorem unfinished_literal {more : List Char} (noQuote : '"' ∉ more) (start : Nat) :
    ∀ (collected : List Char) (escaped : Bool) (position : Nat),
      .unfinished ∈ (scanFrom (.literal start collected escaped) position more).map Placed.token := by
  induction more with
  | nil => exact fun _ _ _ => List.mem_cons_self
  | cons character more ih =>
    intro collected escaped position
    rw [List.mem_cons, not_or] at noQuote
    have goesOn : ∃ escapedNext, step (.literal start collected escaped) position character =
        ([], .literal start (character :: collected) escapedNext) := by
      cases escaped with
      | true => exact ⟨false, rfl⟩
      | false =>
        by_cases backslash : character = '\\'
        · exact ⟨true, by rw [step, if_pos backslash]⟩
        · exact ⟨false, by rw [step, if_neg backslash, if_neg (Ne.symm noQuote.1)]⟩
    obtain ⟨escapedNext, goesOn⟩ := goesOn
    simpa only [scanFrom, goesOn, List.nil_append] using ih noQuote.2 _ _ _

/-- Characters that are not quotes finish no literal. -/
theorem unfinished_append {more : List Char} (noQuote : '"' ∉ more) (characters : List Char) :
    ∀ (mode : Mode) (position : Nat), .unfinished ∈ (scanFrom mode position characters).map Placed.token →
      .unfinished ∈ (scanFrom mode position (characters ++ more)).map Placed.token := by
  induction characters with
  | nil =>
    intro mode position unfinished
    cases mode with
    | literal start collected escaped => exact unfinished_literal noQuote start collected escaped position
    | _ => simp [scanFrom, finish] at unfinished
  | cons character characters ih =>
    intro mode position unfinished
    simp only [scanFrom, List.cons_append, List.map_append, List.mem_append] at unfinished ⊢
    exact unfinished.imp_right (ih _ _)

theorem toList_closedBy (count : Nat) (text : String) :
    (closedBy count text).toList = text.toList ++ '\n' :: List.replicate count ')' := by
  simp [closedBy]

/-- The tokens of the closing parentheses come after those of the text, unless it ends inside of a literal. -/
theorem scan_closedBy {text : String} (finished : .unfinished ∉ (scan text).map Placed.token) (count : Nat) :
    ∃ row, scan (closedBy count text) = scan text ++ row ∧ row.length = count ∧
      ∀ placed ∈ row, placed.token = .closing := by
  refine ⟨_, ?_, scanFrom_closings count (0 + (byteLength text.toList + 1))⟩
  rw [scan, toList_closedBy, scanFrom_line _ _ _ _ finished]
  rfl

/-- A text that ends inside of a literal is not read, however many parentheses come after it. -/
theorem finished_of_readTerm_closedBy {text : String} {count : Nat} {term : Term}
    (reads : readTerm (closedBy count text) = .ok term) : .unfinished ∉ (scan text).map Placed.token := by
  intro unfinished
  obtain ⟨tokens, tokenizes, -⟩ := readTerm_eq_ok_iff.1 reads
  obtain ⟨rfl, finished⟩ := tokenizes_iff.1 tokenizes
  have noQuote : '"' ∉ '\n' :: List.replicate count ')' := by simp
  rw [scan, toList_closedBy] at finished
  exact finished (unfinished_append noQuote _ _ _ unfinished)

/-- **Closing parentheses make a term of a text** if it leads to a closable stage in which so many are open. -/
theorem exists_readTerm_closedBy_iff {text : String} {count : Nat} (positive : 1 ≤ count) :
    (∃ term, readTerm (closedBy count text) = .ok term) ↔
      ∃ last, Leads .start (scan text) last ∧ last.Closable ∧ last.opened.length = count := by
  constructor
  · rintro ⟨term, reads⟩
    obtain ⟨row, scans, length, closings⟩ := scan_closedBy (finished_of_readTerm_closedBy reads) count
    rw [readTerm_eq_ok_iff_readFrom, scans] at reads
    obtain ⟨last, leads⟩ | ⟨_, _, stops⟩ | ⟨_, rest, stops⟩ := leads_or_settled .start (scan text)
    · rw [leads.readFrom_append] at reads
      obtain ⟨closable, same⟩ := (readFrom_closings closings).1 ⟨term, reads⟩
      exact ⟨last, leads, closable, same.trans length⟩
    · rw [stops] at reads
      cases reads
    · -- a term that is complete before the new line leaves the parentheses over
      rw [stops, Except.ok.injEq, Prod.mk.injEq, List.append_eq_nil_iff] at reads
      obtain ⟨-, -, rfl⟩ := reads
      rw [← length] at positive
      cases positive
  · rintro ⟨last, leads, closable, same⟩
    obtain ⟨row, scans, length, closings⟩ := scan_closedBy leads.finished count
    simp only [readTerm_eq_ok_iff_readFrom, scans, leads.readFrom_append]
    exact (readFrom_closings closings).2 ⟨closable, same.trans length.symm⟩

/-! ## The parenthesis that is reported -/

/-- **The innermost parenthesis that is never closed** is the one at a byte of the text.  Scanning finds it there,
outside of literals and comments; what follows does not close it, and closes every one that is opened later. -/
def InnermostUnclosed (text : String) (position : Nat) : Prop :=
  ∃ before after : String, text = before ++ "(" ++ after ∧ position = before.utf8ByteSize ∧
    scan text = scan before ++ ⟨.opening, position⟩ :: shiftAll (position + 1) (scan after) ∧
    ¬ Closed ((scan after).map Placed.token) ∧
    ∀ earlier other later, scan after = earlier ++ ⟨.opening, other⟩ :: later →
      Closed (later.map Placed.token)

theorem map_token_shiftAll (offset : Nat) (row : List Placed) :
    (shiftAll offset row).map Placed.token = row.map Placed.token := by
  rw [shiftAll, List.map_map]
  rfl

/-- The innermost of the parentheses that the tokens of a text leave open. -/
theorem Unclosed.innermost {text : String} {position : Nat} {outer : List Nat}
    (account : Unclosed (position :: outer) (scan text)) : InnermostUnclosed text position := by
  generalize scans : scan text = row at account
  cases account with
  | @more _ _ earlier later _ balanced =>
    obtain ⟨before, after, split, byte, rfl, rfl⟩ := scan_split scans
    rw [map_token_shiftAll] at balanced
    refine ⟨before, after, split, byte, scans, balanced.not_closed, fun first other last found => ?_⟩
    refine balanced.closed_of_split (first.map Placed.token) (last.map Placed.token) ?_
    rw [found, List.map_append, List.map_cons]

/-- **A text is reported as unbalanced exactly if only closing parentheses are missing.** Some number of them, on
a new line after the text, makes it a term; no other number does; and what is reported is the innermost
parenthesis that is never closed. -/
theorem readTerm_unbalanced (text : String) :
    ((∃ position, readTerm text = .error (.unbalanced position)) ↔
      ∃ count ≥ 1, ∃ term, readTerm (closedBy count text) = .ok term) ∧
    (∀ count ≥ 1, ∀ other ≥ 1, ∀ term otherTerm, readTerm (closedBy count text) = .ok term →
      readTerm (closedBy other text) = .ok otherTerm → count = other) ∧
    ∀ position, readTerm text = .error (.unbalanced position) → InnermostUnclosed text position := by
  refine ⟨⟨?_, ?_⟩, ?_, ?_⟩
  · rintro ⟨position, fails⟩
    obtain ⟨last, outer, leads, closable, innermost⟩ := readTerm_eq_unbalanced_iff.1 fails
    have positive : 1 ≤ last.opened.length := by simp [innermost]
    exact ⟨_, positive, (exists_readTerm_closedBy_iff positive).2 ⟨last, leads, closable, rfl⟩⟩
  · rintro ⟨count, positive, reads⟩
    obtain ⟨last, leads, closable, length⟩ := (exists_readTerm_closedBy_iff positive).1 reads
    cases innermost : last.opened with
    | nil =>
      rw [innermost] at length
      exact absurd length (Nat.ne_of_lt positive)
    | cons position outer =>
      exact ⟨position, readTerm_eq_unbalanced_iff.2 ⟨last, outer, leads, closable, innermost⟩⟩
  · intro count positive other positiveOther term otherTerm reads readsOther
    obtain ⟨last, leads, -, length⟩ := (exists_readTerm_closedBy_iff positive).1 ⟨term, reads⟩
    obtain ⟨_, leadsOther, -, lengthOther⟩ :=
      (exists_readTerm_closedBy_iff positiveOther).1 ⟨otherTerm, readsOther⟩
    obtain rfl := leads.unique leadsOther
    exact length.symm.trans lengthOther
  · intro position fails
    obtain ⟨last, outer, leads, -, innermost⟩ := readTerm_eq_unbalanced_iff.1 fails
    have nothing : Unclosed Stage.start.opened [] := .none .nil
    have account := leads.unclosed nothing
    rw [List.nil_append, innermost] at account
    exact account.innermost

/-- Two parentheses are open, one in a literal and one in a comment aside, and the inner one is reported. -/
theorem readTerm_unbalanced_nested :
    readTerm "(f, (g \"(\" ; b)" = .error (.unbalanced 4) ∧
    InnermostUnclosed "(f, (g \"(\" ; b)" 4 ∧
    ∀ count ≥ 1, ∀ term, readTerm (closedBy count "(f, (g \"(\" ; b)") = .ok term → count = 2 := by
  have fails : readTerm "(f, (g \"(\" ; b)" = .error (.unbalanced 4) := rfl
  have two : readTerm (closedBy 2 "(f, (g \"(\" ; b)") =
      .ok (.compound "f" [.apply (.atom "g") [.atom "\"(\""]]) := rfl
  obtain ⟨-, unique, innermost⟩ := readTerm_unbalanced "(f, (g \"(\" ; b)"
  refine ⟨fails, innermost 4 fails, fun count positive term reads => ?_⟩
  exact unique count positive 2 (by decide) term _ reads two

end TermSpace.Reader
