import TermSpace.Proofs.Reader.Statements

/-!
# Programs as text

A program is written line by line: each statement as the canonical text of its term, behind an evaluation mark
if it is to be evaluated.  The mark is a symbol character, so that two statements can look alike: the atom `!a`
that is not to be evaluated, and `a` that is.  Reading takes the mark for one wherever it can, and a statement is
*readable* if its term is and if it is not the first of such a pair (`Statement.Readable`).

No program has the first of the pair in it.  An atom that stands for a whole statement is its only token, or its
only one behind a mark that stands apart, and a token from which no mark has been taken begins with none
(`Begun.advance`).  Conversely the text of a readable statement is read back by itself
(`Statement.Readable.readProgram_eq_ok`), and so are the lines of a program.  Hence the programs that are read
back from their own text are those of readable statements, and all programs that are read from any text are
among them (`readProgram_renderProgram`).
-/

namespace TermSpace.Reader

set_option autoImplicit false

/-! ## The text of a program -/

/-- The text of a statement: an evaluation mark if it is to be evaluated, and the canonical text of its term. -/
def Statement.render (statement : Statement) : String :=
  (if statement.evaluate then "!" else "") ++ statement.term.render

/-- **The text of a program,** each statement on a line of its own. -/
def renderProgram (statements : List Statement) : String :=
  "\n".intercalate (statements.map Statement.render)

/-- The characters begin with an evaluation mark. -/
def Marked (text : String) : Prop := text.toList.head? = some '!'

/-- **Readable statements.** The term is readable, and if it is an atom that begins with a mark, the statement is
to be evaluated. -/
structure Statement.Readable (statement : Statement) : Prop where
  term : Reader.Readable statement.term
  marked : ∀ name, statement.term = .atom name → Marked name → statement.evaluate = true

/-! ## What is read -/

/-- No mark is taken from a token that is no symbol with one in front. -/
theorem takeMark_of_not_marked {placed : Placed} (plain : ∀ text, placed.token = .symbol text → ¬ Marked text) :
    takeMark placed = (false, some placed) := by
  rw [takeMark]
  split
  · next text symbol =>
    have unmarked := plain text symbol
    rw [Marked] at unmarked
    split <;> simp_all
  · rfl

/-- A token that no mark is taken from is left as it is, and is no symbol with a mark in front. -/
theorem takeMark_eq_false {placed : Placed} (plain : (takeMark placed).1 = false) :
    (takeMark placed).2 = some placed ∧ ∀ text, placed.token = .symbol text → ¬ Marked text := by
  have unmarked : ∀ text, placed.token = .symbol text → ¬ Marked text := by
    intro text symbol marked
    obtain ⟨rest, shown⟩ := List.head?_eq_some_iff.1 marked
    rw [takeMark, symbol] at plain
    simp only [shown] at plain
    split at plain <;> cases plain
    simp_all
  rw [takeMark_of_not_marked unmarked]
  exact ⟨rfl, unmarked⟩

/-- No literal begins with a mark. -/
theorem not_marked_of_isLiteral {text : String} (complete : IsLiteral text.toList) : ¬ Marked text := by
  obtain ⟨body, -, same⟩ := complete
  simp [Marked, same]

/-- **A statement under way has begun** with a token of its term, or with a mark that stands apart. -/
def Begun : Underway → Prop
  | none => True
  | some (evaluate, stage) => ∃ read, Reached stage read ∧ (read = [] → evaluate = true)

/-- What a token is met with: some tokens of the term, or a mark, or else the token has no mark in front. -/
theorem Begun.meet {current : Underway} (begun : Begun current) {placed : Placed}
    (complete : placed.token.Complete) :
    ∃ read, Reached (Reader.meet current placed).2.1 read ∧
      (read = [] → (Reader.meet current placed).1 = false →
        ∃ token, (Reader.meet current placed).2.2 = some token ∧
          ∀ name, Names token.token name → ¬ Marked name) := by
  cases current with
  | some state =>
    obtain ⟨read, reached, nothing⟩ := begun
    refine ⟨read, reached, fun none plain => ?_⟩
    rw [show state.1 = false from plain] at nothing
    cases nothing none
  | none =>
    refine ⟨[], .awaiting .nil, fun _ plain => ?_⟩
    obtain ⟨left, unmarked⟩ := takeMark_eq_false plain
    refine ⟨placed, left, fun name names => ?_⟩
    obtain ⟨token, position⟩ := placed
    cases names with
    | symbol => exact unmarked name rfl
    | literal => exact not_marked_of_isLiteral complete

/-- **One token** keeps a statement begun, and completes no atom that has kept its mark. -/
theorem Begun.advance {current next : Underway} {placed : Placed} {completed? : Option Statement}
    (begun : Begun current) (complete : placed.token.Complete)
    (advances : advanceStatement current placed = .ok (next, completed?)) :
    Begun next ∧ ∀ statement ∈ completed?, ∀ name, statement.term = .atom name → Marked name →
      statement.evaluate = true := by
  obtain ⟨read, reached, met⟩ := begun.meet complete
  rw [advanceStatement] at advances
  generalize Reader.meet current placed = meeting at advances reached met
  obtain ⟨evaluate, stage, token?⟩ := meeting
  dsimp only at advances reached met
  cases token? with
  | none =>
    cases advances
    refine ⟨⟨read, reached, fun nothing => ?_⟩, by simp⟩
    cases evaluate with
    | true => rfl
    | false => simpa using met nothing rfl
  | some token =>
    dsimp only at advances
    cases progresses : Reader.advance stage token with
    | error problem => simp [progresses] at advances
    | ok progress =>
      have arrives := reached.arrives_advance progresses
      rw [progresses] at advances
      cases progress with
      | reading later =>
        cases advances
        exact ⟨⟨_, arrives, by simp⟩, by simp⟩
      | done term =>
        cases advances
        refine ⟨trivial, ?_⟩
        rintro _ ⟨⟩ name rfl marked
        -- the token is all there is of an atom
        obtain ⟨alone, same, names⟩ := Derives.names_of_atom arrives
        obtain ⟨nothing, last⟩ := (List.append_eq_singleton_iff.1 same).resolve_right (by simp)
        obtain rfl := List.singleton_inj.1 last
        cases evaluate with
        | true => rfl
        | false =>
          obtain ⟨_, ⟨⟩, unmarked⟩ := met nothing rfl
          exact absurd marked (unmarked name names)

/-- **The statements of a program are readable.** -/
theorem statement_readable_of_readProgram {text : String} {statements : List Statement}
    (reads : readProgram text = .ok statements) : ∀ statement ∈ statements, statement.Readable := by
  have tokenizes : Tokenizes text.toList ((scan text).map Placed.token) :=
    tokenizes_iff.2 ⟨rfl, finished_of_readStatements reads⟩
  have nothing : Begun none := trivial
  have marked := forall_of_readStatements Begun (fun begun complete advances => begun.advance complete advances)
    nothing tokenizes.complete reads
  exact fun statement member => ⟨readable_of_readProgram reads statement member, marked statement member⟩

/-! ## What is written -/

/-- A statement under way is read as its term is. -/
theorem readStatements_of_readFrom {length : Nat} {row rest : List Placed} (evaluate : Bool) {term : Term} :
    ∀ {stage : Stage}, readFrom length stage row = .ok (term, rest) →
      readStatements length (some (evaluate, stage)) row =
        (readStatements length none rest).map (⟨term, evaluate⟩ :: ·) := by
  induction row with
  | nil =>
    intro stage read
    cases read
  | cons placed row ih =>
    intro stage read
    rw [readFrom] at read
    rw [readStatements_cons, advanceStatement, meet]
    cases advances : advance stage placed with
    | error problem => simp [advances] at read
    | ok progress =>
      rw [advances] at read
      cases progress with
      | done term =>
        cases read
        simp [advances, Except.bind]
      | reading next =>
        simp only [advances, Except.bind, Option.toList_none]
        rw [ih read, map_nil_append]

/-- The tokens of a term are those of a statement under way. -/
theorem readStatements_of_derives {tokens : List Token} {term : Term} (derives : Derives tokens term)
    {row : List Placed} (same : row.map Placed.token = tokens) (length : Nat) (evaluate : Bool) :
    readStatements length (some (evaluate, .start)) row = .ok [⟨term, evaluate⟩] := by
  have read : readFrom length .start (row ++ []) = .ok (term, []) := readsThrough_of_derives derives row same [] []
  rw [List.append_nil] at read
  rw [readStatements_of_readFrom evaluate read]
  rfl

/-- A term that begins with a symbol is that symbol. -/
theorem Derives.eq_atom_of_symbol {text : String} {tokens : List Token} {term : Term}
    (derives : Derives (.symbol text :: tokens) term) : term = .atom text := by
  cases derives with
  | atom names =>
    cases names
    rfl

/-- Without a mark in front of them, they are those of a statement that is not to be evaluated. -/
theorem readStatements_unmarked {tokens : List Token} {term : Term} (derives : Derives tokens term)
    (unmarked : ∀ name, term = .atom name → ¬ Marked name) {row : List Placed}
    (same : row.map Placed.token = tokens) (length : Nat) :
    readStatements length none row = .ok [⟨term, false⟩] := by
  subst same
  cases row with
  | nil => exact absurd rfl derives.finished.1
  | cons placed row =>
    have plain : ∀ text, placed.token = .symbol text → ¬ Marked text := by
      intro text symbol
      rw [List.map_cons, symbol] at derives
      exact unmarked text derives.eq_atom_of_symbol
    rw [← readStatements_of_derives derives rfl length false, readStatements_cons, readStatements_cons]
    simp only [advanceStatement, meet, takeMark_of_not_marked plain]

/-- Behind a mark that stands apart, they are those of a statement that is to be evaluated. -/
theorem readStatements_behind_mark {tokens : List Token} {term : Term} (derives : Derives tokens term)
    {row : List Placed} (same : row.map Placed.token = .symbol "!" :: tokens) (length : Nat) :
    readStatements length none row = .ok [⟨term, true⟩] := by
  obtain ⟨⟨_, position⟩, row, rfl, rfl, sameRow⟩ := List.map_eq_cons_iff.1 same
  exact readStatements_of_derives derives sameRow length true

/-- A mark at the front of a symbol is taken off. -/
theorem readStatements_marked_symbol {name : String} (nonempty : name.toList ≠ []) {row : List Placed}
    (same : row.map Placed.token = [.symbol ("!" ++ name)]) (length : Nat) :
    readStatements length none row = .ok [⟨.atom name, true⟩] := by
  obtain ⟨⟨_, position⟩, rfl, rfl⟩ := List.map_eq_singleton_iff.1 same
  have taken : takeMark ⟨.symbol ("!" ++ name), position⟩ = (true, some ⟨.symbol name, position + 1⟩) := by
    have shown : ("!" ++ name).toList = '!' :: name.toList := by simp
    simp only [takeMark, shown, String.ofList_toList]
  rw [readStatements_cons, advanceStatement, meet]
  simp [taken]
  rfl

/-- A readable term is one symbol, or its text does not go on with one. -/
theorem Readable.symbol_or_noSymbolAhead {term : Term} (readable : Reader.Readable term) :
    (∃ name, term = .atom name ∧ IsSymbol name.toList) ∨ NoSymbolAhead term.render.toList := by
  cases readable with
  | @atom name readable =>
    rcases readable with row | ⟨body, -, quoted⟩
    · exact .inl ⟨name, rfl, row⟩
    · refine .inr ?_
      rw [Term.render, quoted]
      exact noSymbolAhead_cons (by decide) _
  | compound =>
    refine .inr ?_
    rw [Term.render, String.append_assoc, String.append_assoc, String.toList_append]
    exact noSymbolAhead_cons (by decide) _

/-- **A readable statement is read back** from its text. -/
theorem Statement.Readable.readProgram_eq_ok {statement : Statement} (readable : statement.Readable) :
    readProgram statement.render = .ok [statement] := by
  obtain ⟨term, evaluate⟩ := statement
  obtain ⟨readable, marked⟩ := readable
  dsimp only at readable marked
  obtain ⟨tokens, derives, splits⟩ := readable.spells
  have tokenizes : Tokenizes term.render.toList tokens := by
    simpa using splits [] [] (by simp [NoSymbolAhead]) .nothing
  cases evaluate with
  | false =>
    have alone : Statement.render ⟨term, false⟩ = term.render := by simp [Statement.render]
    rw [alone, readProgram]
    exact readStatements_unmarked derives (by simpa using marked) (tokenizes_iff.1 tokenizes).1 _
  | true =>
    have behind : Statement.render ⟨term, true⟩ = "!" ++ term.render := rfl
    rw [behind, readProgram]
    rcases readable.symbol_or_noSymbolAhead with ⟨name, rfl, nonempty, row⟩ | ahead
    · -- the mark and the name are one symbol
      have symbol : IsSymbol ("!" ++ name).toList := by
        rw [String.toList_append]
        exact ⟨by simp, List.forall_mem_cons.2 ⟨by decide, row⟩⟩
      have scanned : Tokenizes ("!" ++ name).toList [.symbol ("!" ++ name)] := by
        simpa using Tokenizes.symbol symbol (by simp [NoSymbolAhead]) .nothing
      exact readStatements_marked_symbol nonempty (tokenizes_iff.1 scanned).1 _
    · have scanned : Tokenizes ("!" ++ term.render).toList (.symbol "!" :: tokens) := by
        rw [String.toList_append]
        exact .symbol (.single (by decide)) ahead tokenizes
      exact readStatements_behind_mark derives (tokenizes_iff.1 scanned).1 _

/-- The lines of readable statements are read back one by one. -/
theorem readProgram_renderProgram_of_readable {statements : List Statement}
    (readable : ∀ statement ∈ statements, statement.Readable) :
    readProgram (renderProgram statements) = .ok statements := by
  induction statements with
  | nil => rfl
  | cons statement rest ih =>
    rw [List.forall_mem_cons] at readable
    have first := readable.1.readProgram_eq_ok
    cases rest with
    | nil => simpa [renderProgram] using first
    | cons second others =>
      have lines := readProgram_lines first (renderProgram (second :: others))
      rw [ih readable.2] at lines
      simpa [renderProgram, Except.map, Except.mapError] using lines

/-! ## Reading back -/

/-- **A program is read back from its own text,** whether a line break ends the last line or not.  The programs of
which this holds are those of readable statements, and all that are read from any text are among them. -/
theorem readProgram_renderProgram :
    (∀ statements : List Statement, readProgram (renderProgram statements) = .ok statements ↔
      ∀ statement ∈ statements, statement.Readable) ∧
    ∀ (text : String) (statements : List Statement), readProgram text = .ok statements →
      readProgram (renderProgram statements) = .ok statements ∧
      readProgram (renderProgram statements ++ "\n") = .ok statements := by
  refine ⟨fun statements => ⟨statement_readable_of_readProgram, readProgram_renderProgram_of_readable⟩,
    fun text statements reads => ?_⟩
  have again := readProgram_renderProgram_of_readable (statement_readable_of_readProgram reads)
  have ended := readProgram_lines again ""
  rw [show readProgram "" = .ok [] from rfl] at ended
  exact ⟨again, by simpa [Except.map, Except.mapError] using ended⟩

/-- Marks at the front of a symbol, apart, in a literal and inside of a list. -/
theorem readProgram_renderProgram_marks :
    let statements : List Statement := [⟨.atom "!a", true⟩, ⟨.atom "\"!b\"", true⟩,
      ⟨.apply (.atom "f") [.atom "!c"], false⟩]
    readProgram "!!a ; !b\n! \"!b\" (f !c)" = .ok statements ∧
    renderProgram statements = "!!a\n!\"!b\"\n(^, f, (*, !c))" ∧
    readProgram "!!a\n!\"!b\"\n(^, f, (*, !c))" = .ok statements := by
  intro statements
  have reads : readProgram "!!a ; !b\n! \"!b\" (f !c)" = .ok statements := rfl
  have written : renderProgram statements = "!!a\n!\"!b\"\n(^, f, (*, !c))" := by decide
  have again := (readProgram_renderProgram.2 _ _ reads).1
  rw [written] at again
  exact ⟨reads, written, again⟩

/-- An atom that keeps its mark is not read back unless it is to be evaluated. -/
example : readProgram (renderProgram [⟨.atom "!a", false⟩]) = .ok [⟨.atom "a", true⟩] := rfl

end TermSpace.Reader
