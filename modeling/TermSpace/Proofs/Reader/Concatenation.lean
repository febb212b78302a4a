import TermSpace.Proofs.Reader.Tokenization
import TermSpace.Reader.Program

/-!
# Programs one after the other

A text may stand after another one, on a new line.  Then it is read as if it stood alone, except that
everything in it is further on: tokens, the parentheses that are open, and what errors point at
(`readStatements_shift`).  What is read before the new line is finished there, as a program leaves no literal
open and reading stands between two statements at its end.  So the statements of a program and those of a text
after it are the statements of both together (`readProgram_lines`).  If the text is no program, what is wrong with
it is wrong with both together; every error of a program has a byte to move (`readStatements_eq_error`).
-/

namespace TermSpace.Reader

set_option autoImplicit false

/-! ## Further on -/

/-- A token that is so many bytes further on. -/
def Placed.shift (offset : Nat) (placed : Placed) : Placed :=
  ⟨placed.token, placed.position + offset⟩

/-- Tokens that are so many bytes further on. -/
def shiftAll (offset : Nat) (row : List Placed) : List Placed := row.map (Placed.shift offset)

/-- What scanning is in the middle of, so many bytes further on. -/
def Mode.shift (offset : Nat) : Mode → Mode
  | .between => .between
  | .comment => .comment
  | .symbol start collected => .symbol (start + offset) collected
  | .literal start collected escaped => .literal (start + offset) collected escaped

/-- An open parenthesis that is so many bytes further on. -/
def Frame.shift (offset : Nat) : Frame → Frame
  | .fresh opened => .fresh (opened + offset)
  | .surface opened head arguments => .surface (opened + offset) head arguments
  | .canonical opened operator components => .canonical (opened + offset) operator components

/-- A stage of reading, so many bytes further on. -/
def Stage.shift (offset : Nat) : Stage → Stage
  | .awaiting frames => .awaiting (frames.map (Frame.shift offset))
  | .listed opened operator components outer =>
    .listed (opened + offset) operator components (outer.map (Frame.shift offset))

/-- What a token leads to, so many bytes further on. -/
def Progress.shift (offset : Nat) : Progress → Progress
  | .reading stage => .reading (stage.shift offset)
  | .done term => .done term

/-- An error that is so many bytes further on. -/
def ReadError.shift (offset : Nat) : ReadError → ReadError
  | .unexpected position found => .unexpected (position + offset) found
  | .unbalanced position => .unbalanced (position + offset)
  | .empty => .empty

section Shift

variable (offset : Nat)

@[simp] theorem shiftAll_append (first second : List Placed) :
    shiftAll offset (first ++ second) = shiftAll offset first ++ shiftAll offset second :=
  List.map_append

/-! ## Scanning further on -/

theorem begin_shift (position : Nat) (character : Char) :
    begin (position + offset) character =
      (shiftAll offset (begin position character).1, (begin position character).2.shift offset) := by
  by_cases row : isSymbolCharacter character = true
  · simp only [begin, if_pos row]
    rfl
  · rcases eq_of_not_isSymbolCharacter (Bool.not_eq_true _ ▸ row) with
      blank | rfl | rfl | rfl | rfl | rfl
    · rw [begin_blank _ blank, begin_blank _ blank]
      rfl
    all_goals rfl

theorem step_shift (mode : Mode) (position : Nat) (character : Char) :
    step (mode.shift offset) (position + offset) character =
      (shiftAll offset (step mode position character).1,
        (step mode position character).2.shift offset) := by
  cases mode with
  | between => exact begin_shift offset position character
  | comment =>
    simp only [Mode.shift, step]
    split <;> rfl
  | symbol start collected =>
    simp only [Mode.shift, step]
    split
    · rfl
    · rw [begin_shift]
      rfl
  | literal start collected escaped =>
    cases escaped with
    | true => rfl
    | false =>
      simp only [Mode.shift, step]
      split
      · rfl
      · split <;> rfl

theorem scanFrom_shift (characters : List Char) : ∀ (mode : Mode) (position : Nat),
    scanFrom (mode.shift offset) (position + offset) characters =
      shiftAll offset (scanFrom mode position characters) := by
  induction characters with
  | nil =>
    intro mode position
    cases mode <;> rfl
  | cons character characters ih =>
    intro mode position
    simp only [scanFrom, step_shift, shiftAll_append]
    rw [Nat.add_right_comm, ih]

/-! ## Reading further on -/

theorem place_shift (term : Term) (frames : List Frame) :
    place term (frames.map (Frame.shift offset)) = (place term frames).shift offset := by
  cases frames with
  | nil => rfl
  | cons frame outer => cases frame <;> rfl

theorem close?_shift (frames : List Frame) :
    close? (frames.map (Frame.shift offset)) = (close? frames).map (Progress.shift offset) := by
  cases frames with
  | nil => rfl
  | cons frame outer =>
    cases frame with
    | fresh opened => exact congrArg some (place_shift offset _ outer)
    | surface opened head arguments => exact congrArg some (place_shift offset _ outer)
    | canonical opened operator components => rfl

theorem continue?_shift (frames : List Frame) :
    continue? (frames.map (Frame.shift offset)) = (continue? frames).map (Stage.shift offset) := by
  cases frames with
  | nil => rfl
  | cons frame outer =>
    cases frame with
    | fresh opened => rfl
    | canonical opened operator components => rfl
    | surface opened head arguments =>
      cases head with
      | compound operator components => rfl
      | atom name => cases arguments <;> rfl

theorem advance_shift (stage : Stage) (placed : Placed) :
    advance (stage.shift offset) (placed.shift offset) =
      ((advance stage placed).map (Progress.shift offset)).mapError (ReadError.shift offset) := by
  obtain ⟨token, position⟩ := placed
  cases stage with
  | awaiting frames =>
    cases token with
    | symbol text => exact congrArg Except.ok (place_shift offset _ frames)
    | literal text => exact congrArg Except.ok (place_shift offset _ frames)
    | opening => rfl
    | closing =>
      simp only [Stage.shift, Placed.shift, advance, close?_shift]
      cases close? frames <;> rfl
    | comma =>
      simp only [Stage.shift, Placed.shift, advance, continue?_shift]
      cases continue? frames <;> rfl
    | unfinished => rfl
  | listed opened operator components outer =>
    cases token with
    | closing => exact congrArg Except.ok (place_shift offset _ outer)
    | _ => rfl

theorem endError_shift (length : Nat) (stage : Stage) :
    (stage.shift offset).endError (length + offset) = (stage.endError length).shift offset := by
  cases stage with
  | listed opened operator components outer => rfl
  | awaiting frames =>
    cases frames with
    | nil => rfl
    | cons frame outer => cases frame <;> rfl

theorem takeMark_shift (placed : Placed) :
    takeMark (placed.shift offset) =
      ((takeMark placed).1, (takeMark placed).2.map (Placed.shift offset)) := by
  obtain ⟨token, position⟩ := placed
  cases token with
  | symbol text =>
    simp only [takeMark, Placed.shift]
    split
    · rfl
    · simp only [Option.map_some, Placed.shift, Nat.add_right_comm]
    · rfl
  | _ => rfl

end Shift

/-! ## One token of a program -/

/-- A token fails where it cannot stand, and in no other way. -/
theorem advance_eq_error {stage : Stage} {placed : Placed} {problem : ReadError}
    (fails : advance stage placed = .error problem) :
    ∃ position found, problem = .unexpected position found := by
  obtain ⟨token, position⟩ := placed
  cases stage with
  | awaiting frames =>
    cases token with
    | closing =>
      simp only [advance] at fails
      split at fails <;> cases fails
      exact ⟨_, _, rfl⟩
    | comma =>
      simp only [advance] at fails
      split at fails <;> cases fails
      exact ⟨_, _, rfl⟩
    | unfinished =>
      cases fails
      exact ⟨_, _, rfl⟩
    | _ => cases fails
  | listed opened operator components outer =>
    cases token <;> cases fails <;> exact ⟨_, _, rfl⟩

/-- A statement under way: whether it is to be evaluated, and the stage of its term. -/
abbrev Underway := Option (Bool × Stage)

/-- A statement under way, so many bytes further on. -/
def shiftUnderway (offset : Nat) (current : Underway) : Underway :=
  current.map fun (evaluate, stage) => (evaluate, stage.shift offset)

/-- Whether the statement of a token is to be evaluated, the stage that the token is met in, and what is left
of the token. -/
def meet (current : Underway) (placed : Placed) : Bool × Stage × Option Placed :=
  match current with
  | some (evaluate, stage) => (evaluate, stage, some placed)
  | none => ((takeMark placed).1, Stage.start, (takeMark placed).2)

/-- **What a token does:** the statement under way after it, and the statement that it completes. -/
def advanceStatement (current : Underway) (placed : Placed) :
    Except ReadError (Underway × Option Statement) :=
  match meet current placed with
  | (evaluate, stage, none) => .ok (some (evaluate, stage), none)
  | (evaluate, stage, some token) =>
    match advance stage token with
    | .error problem => .error problem
    | .ok (.reading next) => .ok (some (evaluate, next), none)
    | .ok (.done term) => .ok (none, some ⟨term, evaluate⟩)

/-- A token fails where it cannot stand in its statement, and in no other way. -/
theorem advanceStatement_eq_error {current : Underway} {placed : Placed} {problem : ReadError}
    (fails : advanceStatement current placed = .error problem) :
    ∃ position found, problem = .unexpected position found := by
  simp only [advanceStatement] at fails
  split at fails
  · cases fails
  · split at fails <;> cases fails
    exact advance_eq_error ‹_›

/-- What is read without a statement before it. -/
theorem map_nil_append (outcome : Except ReadError (List Statement)) :
    outcome.map (([] : List Statement) ++ ·) = outcome := by
  cases outcome <;> rfl

/-- A program is read token by token. -/
theorem readStatements_cons (length : Nat) (current : Underway) (placed : Placed) (rest : List Placed) :
    readStatements length current (placed :: rest) =
      (advanceStatement current placed).bind fun result =>
        (readStatements length result.1 rest).map (result.2.toList ++ ·) := by
  have underway : ∀ (evaluate : Bool) (stage : Stage) (token : Placed),
      readStatements length (some (evaluate, stage)) (token :: rest) =
        (advanceStatement (some (evaluate, stage)) token).bind fun result =>
          (readStatements length result.1 rest).map (result.2.toList ++ ·) := by
    intro evaluate stage token
    simp only [readStatements, advanceStatement, meet]
    cases advance stage token with
    | error problem => rfl
    | ok progress =>
      cases progress with
      | reading next => exact (map_nil_append _).symm
      | done term =>
        dsimp only [Except.bind]
        cases readStatements length none rest <;> rfl
  cases current with
  | some state => exact underway state.1 state.2 placed
  | none =>
    cases marked : (takeMark placed).2 with
    | none =>
      simp only [readStatements, advanceStatement, meet, marked]
      exact (map_nil_append _).symm
    | some token =>
      simpa only [readStatements, advanceStatement, meet, marked] using
        underway (takeMark placed).1 Stage.start token

theorem meet_shift (offset : Nat) (current : Underway) (placed : Placed) :
    meet (shiftUnderway offset current) (placed.shift offset) =
      ((meet current placed).1, (meet current placed).2.1.shift offset,
        (meet current placed).2.2.map (Placed.shift offset)) := by
  cases current with
  | some state => rfl
  | none =>
    simp only [shiftUnderway, Option.map_none, meet, takeMark_shift]
    rfl

theorem advanceStatement_shift (offset : Nat) (current : Underway) (placed : Placed) :
    advanceStatement (shiftUnderway offset current) (placed.shift offset) =
      ((advanceStatement current placed).map fun (next, completed?) =>
        (shiftUnderway offset next, completed?)).mapError (ReadError.shift offset) := by
  rw [advanceStatement, advanceStatement, meet_shift]
  obtain ⟨evaluate, stage, token?⟩ := meet current placed
  cases token? with
  | none => rfl
  | some token =>
    simp only [Option.map_some, advance_shift]
    cases advance stage token with
    | error problem => rfl
    | ok progress => cases progress <;> rfl

/-- **Where a text stands only moves what its errors point at.** -/
theorem readStatements_shift (offset length : Nat) (row : List Placed) : ∀ current : Underway,
    readStatements (length + offset) (shiftUnderway offset current) (shiftAll offset row) =
      (readStatements length current row).mapError (ReadError.shift offset) := by
  induction row with
  | nil =>
    intro current
    cases current with
    | none => rfl
    | some state => exact congrArg Except.error (endError_shift offset length state.2)
  | cons placed row ih =>
    intro current
    rw [shiftAll, List.map_cons, readStatements_cons, readStatements_cons, advanceStatement_shift]
    cases advanceStatement current placed with
    | error problem => rfl
    | ok result =>
      obtain ⟨next, completed?⟩ := result
      change (readStatements (length + offset) (shiftUnderway offset next) (shiftAll offset row)).map
          (completed?.toList ++ ·) =
        ((readStatements length next row).map (completed?.toList ++ ·)).mapError (ReadError.shift offset)
      rw [ih]
      cases readStatements length next row <;> rfl

/-! ## The end of a program -/

/-- No token of a program is an unfinished literal. -/
theorem finished_of_readStatements {length : Nat} {row : List Placed} :
    ∀ {current : Underway} {statements : List Statement},
      readStatements length current row = .ok statements → .unfinished ∉ row.map Placed.token := by
  induction row with
  | nil => simp
  | cons placed row ih =>
    intro current statements reads
    rw [readStatements_cons] at reads
    cases advances : advanceStatement current placed with
    | error problem => simp [advances, Except.bind] at reads
    | ok result =>
      rw [advances] at reads
      have later : .unfinished ∉ row.map Placed.token := by
        cases inRest : readStatements length result.1 row with
        | error problem => simp [inRest, Except.bind, Except.map] at reads
        | ok others => exact ih inRest
      rw [List.map_cons, List.mem_cons, not_or]
      refine ⟨fun unfinished => ?_, later⟩
      obtain ⟨token, position⟩ := placed
      obtain rfl : .unfinished = token := unfinished
      -- a mark is a symbol, so the token is what the stage meets, and no stage goes on with it
      have fails : ∀ stage : Stage, ∃ problem,
          advance stage ⟨.unfinished, position⟩ = .error problem := by
        intro stage
        cases stage <;> exact ⟨_, rfl⟩
      obtain ⟨problem, fails⟩ := fails (meet current ⟨.unfinished, position⟩).2.1
      cases current <;> simp_all [advanceStatement, meet, takeMark]

/-- What stands after a program is read by itself. -/
theorem readStatements_append {length : Nat} {row : List Placed} :
    ∀ {current : Underway} {statements : List Statement},
      readStatements length current row = .ok statements → ∀ (further : Nat) (others : List Placed),
        readStatements further current (row ++ others) =
          (readStatements further none others).map (statements ++ ·) := by
  induction row with
  | nil =>
    intro current statements reads further others
    cases current with
    | some state => cases reads
    | none =>
      cases reads
      rw [List.nil_append]
      cases readStatements further none others <;> rfl
  | cons placed row ih =>
    intro current statements reads further others
    rw [readStatements_cons] at reads
    rw [List.cons_append, readStatements_cons]
    cases advances : advanceStatement current placed with
    | error problem => simp [advances, Except.bind] at reads
    | ok result =>
      obtain ⟨next, completed?⟩ := result
      rw [advances] at reads
      dsimp only [Except.bind] at reads ⊢
      cases inRest : readStatements length next row with
      | error problem => simp [inRest, Except.map] at reads
      | ok later =>
        rw [inRest] at reads
        cases reads
        rw [ih inRest]
        cases readStatements further none others <;> simp [Except.map]

/-- A new line ends everything but a literal. -/
theorem scanFrom_line (characters rest : List Char) : ∀ (mode : Mode) (position : Nat),
    .unfinished ∉ (scanFrom mode position characters).map Placed.token →
    scanFrom mode position (characters ++ '\n' :: rest) =
      scanFrom mode position characters ++
        scanFrom .between (position + (byteLength characters + 1)) rest := by
  induction characters with
  | nil =>
    intro mode position finished
    cases mode with
    | between => rfl
    | comment => rfl
    | symbol start collected => rfl
    | literal start collected escaped => simp [scanFrom, finish] at finished
  | cons character characters ih =>
    intro mode position finished
    rw [scanFrom, List.map_append, List.mem_append, not_or] at finished
    simp only [List.cons_append, scanFrom, ih _ _ finished.2, List.append_assoc, byteLength,
      Nat.add_assoc]

theorem utf8ByteSize_eq_byteLength (text : String) : text.utf8ByteSize = byteLength text.toList := by
  have each : ∀ characters : List Char,
      (String.ofList characters).utf8ByteSize = byteLength characters := by
    intro characters
    induction characters with
    | nil => rfl
    | cons character characters ih => simp [byteLength, ← ih]
  rw [← each, String.ofList_toList]

/-- **Programs one after the other.** What follows a program on a new line is read by itself, further on. -/
theorem readProgram_lines {first : String} {statements : List Statement}
    (reads : readProgram first = .ok statements) (second : String) :
    readProgram (first ++ "\n" ++ second) =
      ((readProgram second).map (statements ++ ·)).mapError
        (ReadError.shift (first.utf8ByteSize + 1)) := by
  have scans : scan (first ++ "\n" ++ second) =
      scan first ++ shiftAll (first.utf8ByteSize + 1) (scan second) := by
    have lines : (first ++ "\n" ++ second).toList = first.toList ++ '\n' :: second.toList := by simp
    rw [scan, lines, scanFrom_line _ _ _ _ (finished_of_readStatements reads),
      utf8ByteSize_eq_byteLength]
    exact congrArg _ (scanFrom_shift _ second.toList .between 0)
  have bytes : (first ++ "\n" ++ second).utf8ByteSize =
      second.utf8ByteSize + (first.utf8ByteSize + 1) := by
    rw [String.utf8ByteSize_append, String.utf8ByteSize_append, Nat.add_comm]
    rfl
  rw [readProgram, scans, bytes, readStatements_append reads, ← show shiftUnderway
    (first.utf8ByteSize + 1) none = none from rfl, readStatements_shift]
  rw [readProgram]
  cases readStatements second.utf8ByteSize none (scan second) <;> rfl

/-- What is wrong at the end of a text is that it is there, or a parenthesis that is never closed. -/
theorem endError_cases (length : Nat) (stage : Stage) :
    (∃ position found, stage.endError length = .unexpected position found) ∨
      ∃ position, stage.endError length = .unbalanced position := by
  cases stage with
  | listed opened operator components outer => exact .inr ⟨_, rfl⟩
  | awaiting frames =>
    cases frames with
    | nil => exact .inl ⟨_, _, rfl⟩
    | cons frame outer =>
      cases frame with
      | fresh opened => exact .inr ⟨_, rfl⟩
      | surface opened head arguments => exact .inr ⟨_, rfl⟩
      | canonical opened operator components => exact .inl ⟨_, _, rfl⟩

/-- Reading statements fails at a byte: where a token cannot stand, at the end, or at a parenthesis that is never
closed. -/
theorem readStatements_eq_error {length : Nat} {row : List Placed} {problem : ReadError} :
    ∀ {current : Underway}, readStatements length current row = .error problem →
      (∃ position found, problem = .unexpected position found) ∨ ∃ position, problem = .unbalanced position := by
  induction row with
  | nil =>
    intro current fails
    cases current with
    | none => cases fails
    | some state =>
      cases fails
      exact endError_cases length state.2
  | cons placed row ih =>
    intro current fails
    rw [readStatements_cons] at fails
    cases advances : advanceStatement current placed with
    | error other =>
      simp only [advances, Except.bind, Except.error.injEq] at fails
      subst fails
      exact .inl (advanceStatement_eq_error advances)
    | ok result =>
      cases inRest : readStatements length result.1 row with
      | error other =>
        simp only [advances, Except.bind, inRest, Except.map, Except.error.injEq] at fails
        exact ih (fails ▸ inRest)
      | ok others => simp [advances, Except.bind, inRest, Except.map] at fails

/-- **A program and a text on a new line after it.** If the text is a program too, the statements are those of
both, in this order.  If it is not, the error is the one of the text, as many bytes further on as the program
and the line break take. -/
theorem readProgram_onNewLine {first : String} {statements : List Statement}
    (reads : readProgram first = .ok statements) (second : String) :
    match readProgram second with
    | .ok others => readProgram (first ++ "\n" ++ second) = .ok (statements ++ others)
    | .error (.unexpected position found) =>
      readProgram (first ++ "\n" ++ second) =
        .error (.unexpected (position + (first.utf8ByteSize + 1)) found)
    | .error (.unbalanced position) =>
      readProgram (first ++ "\n" ++ second) = .error (.unbalanced (position + (first.utf8ByteSize + 1)))
    | .error .empty => False := by
  have both := readProgram_lines reads second
  cases alone : readProgram second with
  | ok others =>
    rw [alone] at both
    exact both
  | error problem =>
    rw [alone] at both
    obtain ⟨position, found, rfl⟩ | ⟨position, rfl⟩ := readStatements_eq_error alone
    · exact both
    · exact both

/-- After a program that ends in a comment and has a character of two bytes in it, twelve bytes in all. -/
theorem readProgram_onNewLine_comment :
    readProgram "!f \"é\" ; (g" = .ok [⟨.atom "f", true⟩, ⟨.atom "\"é\"", false⟩] ∧
    readProgram "a (b" = .error (.unbalanced 2) ∧
    readProgram ("!f \"é\" ; (g" ++ "\n" ++ "a (b") = .error (.unbalanced 15) := by
  have reads : readProgram "!f \"é\" ; (g" = .ok [⟨.atom "f", true⟩, ⟨.atom "\"é\"", false⟩] := rfl
  have alone : readProgram "a (b" = .error (.unbalanced 2) := rfl
  have both := readProgram_onNewLine reads "a (b"
  rw [alone] at both
  exact ⟨reads, alone, both⟩

end TermSpace.Reader
