import TermSpace.Proofs.Reader.Concatenation
import TermSpace.Session

/-!
# Loading one program after another

Statements are run in their order, each in the session that the ones before it have left.  Running some
statements and then others is therefore running all of them in a row, up to the first that fails
(`runAll_append`), and what an evaluation gives is settled by the time its turn has come
(`runAll_evaluation`).  As a text on a new line is read by itself, loading two programs as one text is
loading one after the other (`load_sequential`).
-/

namespace TermSpace.Session

set_option autoImplicit false

/-- **Some statements and then others.** -/
theorem runAll_append (session : Session) (first second : List Reader.Statement) :
    session.runAll (first ++ second) =
      match session.runAll first with
      | (.error problem, last) => (.error problem, last)
      | (.ok results, next) => ((next.runAll second).1.map (results ++ ·), (next.runAll second).2) := by
  induction first generalizing session with
  | nil =>
    simp only [List.nil_append, runAll]
    obtain ⟨outcome, last⟩ := session.runAll second
    cases outcome <;> rfl
  | cons statement first ih =>
    simp only [List.cons_append, runAll]
    cases session.run statement with
    | error problem => rfl
    | ok result =>
      obtain ⟨result?, next⟩ := result
      simp only [ih]
      obtain ⟨outcome, reached⟩ := next.runAll first
      cases outcome with
      | error problem => rfl
      | ok results =>
        simp only [Except.map]
        cases (reached.runAll second).1 <;> simp

/-- **An evaluation in its turn** is one in the session that the statements before it have left. -/
theorem runAll_evaluation {session last : Session} {before after : List Reader.Statement} {term : Term}
    {results : List Term}
    (runs : session.runAll (before ++ ⟨term, true⟩ :: after) = (.ok results, last)) :
    ∃ earlier reached result later, session.runAll before = (.ok earlier, reached) ∧
      reached.evaluate term = .ok result ∧ results = earlier ++ result :: later := by
  rw [runAll_append] at runs
  rcases reaches : session.runAll before with ⟨problem | earlier, reached⟩
  · rw [reaches] at runs
    simp at runs
  · rw [reaches] at runs
    simp only [runAll, run, if_true] at runs
    cases evaluates : reached.evaluate term with
    | error problem => simp [evaluates, Except.map] at runs
    | ok result =>
      rw [evaluates] at runs
      cases others : (reached.runAll after).1 with
      | error problem => simp [others, Except.map] at runs
      | ok later =>
        simp only [others, Except.map, Prod.mk.injEq, Except.ok.injEq] at runs
        exact ⟨earlier, reached, result, later, rfl, evaluates, runs.1.symm⟩

/-- **Loading is sequential.** Of two programs in one text, one below the other, the second is loaded only if
loading the first succeeds, and then as if it were loaded afterwards, its results coming after those of the
first.  If the first fails, then so does the whole, with the same error and in the same session.  The result
of an evaluation is what the statements before it have made of it. -/
theorem load_sequential (session : Session) {first second : String}
    {statements others : List Reader.Statement}
    (readsFirst : Reader.readProgram first = .ok statements)
    (readsSecond : Reader.readProgram second = .ok others) :
    (∀ problem last, session.load first = (.error problem, last) →
      session.load (first ++ "\n" ++ second) = (.error problem, last)) ∧
    (∀ results next, session.load first = (.ok results, next) →
      session.load (first ++ "\n" ++ second) =
        ((next.load second).1.map (results ++ ·), (next.load second).2)) ∧
    ∀ text before term after results last,
      Reader.readProgram text = .ok (before ++ ⟨term, true⟩ :: after) →
      session.load text = (.ok results, last) →
      ∃ earlier reached result later, session.runAll before = (.ok earlier, reached) ∧
        reached.evaluate term = .ok result ∧ results = earlier ++ result :: later := by
  have loads : ∀ {text : String} {read : List Reader.Statement},
      Reader.readProgram text = .ok read → ∀ start : Session, start.load text = start.runAll read := by
    intro text read reads start
    rw [load, reads]
  have both : Reader.readProgram (first ++ "\n" ++ second) = .ok (statements ++ others) := by
    rw [Reader.readProgram_lines readsFirst, readsSecond]
    rfl
  refine ⟨?_, ?_, ?_⟩
  · intro problem last fails
    rw [loads readsFirst] at fails
    rw [loads both, runAll_append, fails]
  · intro results next succeeds
    rw [loads readsFirst] at succeeds
    rw [loads both, runAll_append, succeeds, loads readsSecond]
  · intro text before term after results last reads succeeds
    rw [loads reads] at succeeds
    exact runAll_evaluation succeeds

/-- A session that allows two steps. -/
def brief : Session := .ofConfig { maxSteps := 2, maxMacroDepth := 1 }

/-- The rule of the first program is there for the evaluations of both, and that of the second one comes too
late for the first. -/
theorem load_sequential_rules :
    Reader.readProgram "(= f b) !f" =
      .ok [⟨.compound "=" [.atom "f", .atom "b"], false⟩, ⟨.atom "f", true⟩] ∧
    Reader.readProgram "(= b c) !f" =
      .ok [⟨.compound "=" [.atom "b", .atom "c"], false⟩, ⟨.atom "f", true⟩] ∧
    (brief.load "(= f b) !f").1 = .ok [.atom "b"] ∧
    (brief.load ("(= f b) !f" ++ "\n" ++ "(= b c) !f")).1 = .ok [.atom "b", .atom "c"] := by
  have readsFirst : Reader.readProgram "(= f b) !f" =
      .ok [⟨.compound "=" [.atom "f", .atom "b"], false⟩, ⟨.atom "f", true⟩] := rfl
  have readsSecond : Reader.readProgram "(= b c) !f" =
      .ok [⟨.compound "=" [.atom "b", .atom "c"], false⟩, ⟨.atom "f", true⟩] := rfl
  have loadsFirst : brief.load "(= f b) !f" =
      (.ok [.atom "b"], brief.addRule ⟨.atom "f", .template (.atom "b")⟩) := by
    rw [load, readsFirst]
    rfl
  refine ⟨readsFirst, readsSecond, congrArg Prod.fst loadsFirst, ?_⟩
  rw [(load_sequential brief readsFirst readsSecond).2.1 _ _ loadsFirst, load, readsSecond]
  rfl

end TermSpace.Session
