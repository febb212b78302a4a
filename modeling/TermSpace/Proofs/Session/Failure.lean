import TermSpace.Proofs.Session.Loading
import TermSpace.Proofs.Space.History
import TermSpace.Proofs.Ty.Annotations

/-!
# What a failing program leaves

A program that fails leaves the session as the statements before the failing one have made it, and nothing of
the failing statement (`load_failing`).

A statement is done piece by piece: an annotation of a name goes to the classifier, to the checker and to the
space, which tells its listener, and what has been done is not undone when something fails.  `loadInPlace` is
loading in these pieces on one session.  It leaves the same session as `load`, which goes on from the last
session that a whole statement has made, since a statement fails before its first change or not at all
(`runInPlace_on`).

What statements add to a session is read off the statements (`Extended`), so that there is nothing else to be
left behind.
-/

namespace TermSpace.Session

set_option autoImplicit false

/-! ## Loading in place -/

/-- A program that works on a session.  What it has done stays done when it fails. -/
abbrev InPlace (α : Type) := ExceptT SessionError (StateM Session) α

namespace InPlace

variable {α β : Type}

/-- Ask the session for something, which changes nothing and may fail. -/
def ask (answer : Session → Except SessionError α) : InPlace α := fun session => (answer session, session)

/-- Change the session. -/
def change (next : Session → Session) : InPlace Unit := fun session => (.ok (), next session)

/-- The outcome of a program, and the session that it leaves. -/
def on (program : InPlace α) (session : Session) : Except SessionError α × Session := program session

variable (session : Session)

theorem on_ask (answer : Session → Except SessionError α) :
    (ask answer).on session = (answer session, session) := rfl

/-- What comes next goes on from the session that the first part has left. -/
theorem on_bind (first : InPlace α) (next : α → InPlace β) :
    (first >>= next).on session =
      match first.on session with
      | (.error problem, last) => (.error problem, last)
      | (.ok value, last) => (next value).on last := by
  change ExceptT.bindCont next (first session).1 (first session).2 = _
  rw [on]
  rcases first session with ⟨problem | value, last⟩ <;> rfl

end InPlace

open InPlace (ask change)

/-- Fix the shape of a name if its type names one. -/
def declareShape (classifier : Classifier) (name : String) : Ty → Classifier
  | .base base => ((Shape.ofName? base).map (classifier.declare name)).getD classifier
  | _ => classifier

/-- One statement, piece by piece. -/
def runInPlace (statement : Reader.Statement) : InPlace (Option Term) :=
  if statement.evaluate then do
    let result ← ask fun session => (session.evaluate statement.term).mapError .reduce
    return some result
  else
    match equation? statement.term with
    | some (pattern, result) => do
      change fun session => session.addRule ⟨pattern, .template result⟩
      return none
    | none =>
      match declaration? statement.term with
      | some (name, expression) => do
        let (ty, supply) ← ask fun session => (Ty.ofTerm expression session.supply).mapError .type
        change fun session => { session with supply }
        change fun session => { session with classifier := declareShape session.classifier name ty }
        change fun session => { session with checker := session.checker.declare name ty }
        change fun session => (session.addAtom statement.term).2
        return none
      | none => do
        change fun session => (session.addAtom statement.term).2
        return none

/-- Statements one after the other. -/
def runAllInPlace : List Reader.Statement → InPlace (List Term)
  | [] => return []
  | statement :: rest => do
    let result? ← runInPlace statement
    let results ← runAllInPlace rest
    return result?.toList ++ results

/-- Loading a program, piece by piece. -/
def loadInPlace (text : String) : InPlace (List Term) :=
  match Reader.readProgram text with
  | .error problem => throw (.read problem)
  | .ok statements => runAllInPlace statements

theorem declare_eq (session : Session) (name : String) (ty : Ty) :
    session.declare name ty =
      { session with
        classifier := declareShape session.classifier name ty
        checker := session.checker.declare name ty } := by
  cases ty with
  | base base =>
    simp only [declare, declareShape]
    cases Shape.ofName? base <;> rfl
  | _ => rfl

/-! ## Statements by their forms -/

section Forms

theorem equation?_equation (pattern result : Term) :
    equation? (.compound "=" [pattern, result]) = some (pattern, result) := by
  simp [equation?]

theorem equation?_declared (subject expression : Term) :
    equation? (.compound ":" [subject, expression]) = none := by
  simp [equation?]

theorem declaration?_equation (pattern result : Term) :
    declaration? (.compound "=" [pattern, result]) = none := by
  cases pattern <;> simp [declaration?]

theorem declaration?_declared (name : String) (expression : Term) :
    declaration? (.compound ":" [.atom name, expression]) = some (name, expression) := by
  simp [declaration?]

variable (session : Session)

/-- **The forms of a statement:** an evaluation, an equation, an annotation of a name, or any other atom. -/
@[elab_as_elim]
theorem statementCases {motive : Reader.Statement → Prop} (evaluation : ∀ term, motive ⟨term, true⟩)
    (equation : ∀ pattern result, motive ⟨.compound "=" [pattern, result], false⟩)
    (declaration : ∀ name expression, motive ⟨.compound ":" [.atom name, expression], false⟩)
    (other : ∀ term, equation? term = none → declaration? term = none → motive ⟨term, false⟩)
    (statement : Reader.Statement) : motive statement := by
  obtain ⟨term, evaluate⟩ := statement
  cases evaluate with
  | true => exact evaluation term
  | false =>
    cases isEquation : equation? term with
    | some sides =>
      unfold equation? at isEquation
      split at isEquation
      · simp only [Option.ite_none_right_eq_some] at isEquation
        rw [isEquation.1]
        exact equation _ _
      · cases isEquation
    | none =>
      cases isDeclaration : declaration? term with
      | some parts =>
        unfold declaration? at isDeclaration
        split at isDeclaration
        · simp only [Option.ite_none_right_eq_some] at isDeclaration
          rw [isDeclaration.1]
          exact declaration _ _
        · cases isDeclaration
      | none => exact other term isEquation isDeclaration

theorem run_evaluation (term : Term) :
    session.run ⟨term, true⟩ =
      ((session.evaluate term).mapError .reduce).map fun result => (some result, session) := by
  simp only [run, if_true]
  cases session.evaluate term <;> rfl

theorem run_equation (pattern result : Term) :
    session.run ⟨.compound "=" [pattern, result], false⟩ =
      .ok (none, session.addRule ⟨pattern, .template result⟩) := by
  simp [run, equation?_equation]

theorem run_declaration (name : String) (expression : Term) :
    session.run ⟨.compound ":" [.atom name, expression], false⟩ =
      ((Ty.ofTerm expression session.supply).mapError .type).map fun (ty, supply) =>
        (none, (({ session with supply }.declare name ty).addAtom
          (.compound ":" [.atom name, expression])).2) := by
  simp only [run, equation?_declared, declaration?_declared, readTy]
  cases Ty.ofTerm expression session.supply <;> rfl

theorem run_other {term : Term} (noEquation : equation? term = none)
    (noDeclaration : declaration? term = none) :
    session.run ⟨term, false⟩ = .ok (none, (session.addAtom term).2) := by
  simp [run, noEquation, noDeclaration]

end Forms

/-- **A statement is done as a whole or not at all.** -/
theorem runInPlace_on (session : Session) (statement : Reader.Statement) :
    (runInPlace statement).on session =
      match session.run statement with
      | .error problem => (.error problem, session)
      | .ok (result?, next) => (.ok result?, next) := by
  induction statement using statementCases with
  | evaluation term =>
    rw [run_evaluation]
    simp only [runInPlace, if_true, InPlace.on_bind, InPlace.on_ask]
    cases session.evaluate term <;> rfl
  | equation pattern result =>
    rw [run_equation]
    rfl
  | declaration name expression =>
    rw [run_declaration]
    simp only [runInPlace, equation?_declared, declaration?_declared, declare_eq,
      if_neg Bool.false_ne_true, InPlace.on_bind, InPlace.on_ask]
    cases Ty.ofTerm expression session.supply <;> rfl
  | other term noEquation noDeclaration =>
    rw [run_other session noEquation noDeclaration]
    simp only [runInPlace, noEquation, noDeclaration]
    rfl

theorem runAllInPlace_on (statements : List Reader.Statement) (session : Session) :
    (runAllInPlace statements).on session = session.runAll statements := by
  induction statements generalizing session with
  | nil => rfl
  | cons statement rest ih =>
    simp only [runAllInPlace, runAll, InPlace.on_bind, runInPlace_on]
    cases session.run statement with
    | error problem => rfl
    | ok result =>
      simp only [ih]
      rcases result.2.runAll rest with ⟨problem | results, last⟩ <;> rfl

theorem loadInPlace_on (text : String) (session : Session) :
    (loadInPlace text).on session = session.load text := by
  rw [loadInPlace, load]
  cases Reader.readProgram text with
  | error problem => rfl
  | ok statements => exact runAllInPlace_on statements session

/-! ## The first statement that fails -/

/-- **How a statement fails:** its evaluation does, or it annotates a name with what is no type. -/
inductive Rejects (session : Session) : Reader.Statement → SessionError → Prop where
  | evaluation {term : Term} {problem : ReduceError} (fails : session.evaluate term = .error problem) :
      Rejects session ⟨term, true⟩ (.reduce problem)
  | malformed {name : String} {expression part : Term} (inside : part.Part expression)
      (fails : Ty.ofTerm expression session.supply = .error (.malformed part)) :
      Rejects session ⟨.compound ":" [.atom name, expression], false⟩ (.type (.malformed part))

theorem run_eq_error_iff {session : Session} {statement : Reader.Statement} {problem : SessionError} :
    session.run statement = .error problem ↔ session.Rejects statement problem := by
  constructor
  · intro fails
    induction statement using statementCases with
    | evaluation term =>
      rw [run_evaluation] at fails
      cases evaluates : session.evaluate term with
      | error inner =>
        rw [evaluates] at fails
        cases fails
        exact .evaluation evaluates
      | ok result =>
        rw [evaluates] at fails
        cases fails
    | equation pattern result =>
      rw [run_equation] at fails
      cases fails
    | declaration name expression =>
      rw [run_declaration] at fails
      cases reads : Ty.ofTerm expression session.supply with
      | error inner =>
        rw [reads] at fails
        cases fails
        obtain ⟨part, inside, rfl⟩ := Ty.reports_of_ofTerm reads
        exact .malformed inside reads
      | ok result =>
        rw [reads] at fails
        cases fails
    | other term noEquation noDeclaration =>
      rw [run_other session noEquation noDeclaration] at fails
      cases fails
  · rintro (fails | ⟨_, fails⟩)
    · rw [run_evaluation, fails]
      rfl
    · rw [run_declaration, fails]
      rfl

/-- **Statements fail at the first one that does,** in the session that those before it have left. -/
theorem runAll_eq_error_iff {session last : Session} {statements : List Reader.Statement}
    {problem : SessionError} :
    session.runAll statements = (.error problem, last) ↔
      ∃ before failing after results, statements = before ++ failing :: after ∧
        session.runAll before = (.ok results, last) ∧ last.Rejects failing problem := by
  constructor
  · intro fails
    induction statements generalizing session with
    | nil => cases fails
    | cons statement rest ih =>
      rw [runAll] at fails
      cases runs : session.run statement with
      | error inner =>
        rw [runs] at fails
        cases fails
        exact ⟨[], statement, rest, [], rfl, rfl, run_eq_error_iff.1 runs⟩
      | ok result =>
        obtain ⟨result?, next⟩ := result
        rw [runs] at fails
        rcases others : next.runAll rest with ⟨inner | results, reached⟩
        · simp only [others] at fails
          cases fails
          obtain ⟨before, failing, after, results, rfl, runsBefore, rejects⟩ := ih others
          refine ⟨statement :: before, failing, after, result?.toList ++ results, rfl, ?_, rejects⟩
          simp only [runAll, runs, runsBefore]
          rfl
        · simp only [others] at fails
          cases fails
  · rintro ⟨before, failing, after, results, rfl, runsBefore, rejects⟩
    rw [runAll_append, runsBefore]
    simp only [runAll, run_eq_error_iff.2 rejects]
    rfl

/-! ## What statements add -/

/-- What a statement does to the space. -/
def operation? (statement : Reader.Statement) : Option Space.Operation :=
  if statement.evaluate then none
  else
    match equation? statement.term with
    | some (pattern, result) => some (.addRule ⟨pattern, .template result⟩)
    | none => some (.addAtom statement.term)

/-- The type that a statement declares of a name, read from a supply. -/
def declaration (supply : Nat) (statement : Reader.Statement) : Option (String × Ty) × Nat :=
  match if statement.evaluate then none else declaration? statement.term with
  | none => (none, supply)
  | some (name, expression) =>
    match Ty.ofTerm expression supply with
    | .error _ => (none, supply)
    | .ok (ty, left) => (some (name, ty), left)

/-- The types that statements declare, read from a supply. -/
def declarations (supply : Nat) : List Reader.Statement → List (String × Ty)
  | [] => []
  | statement :: rest =>
    (declaration supply statement).1.toList ++ declarations (declaration supply statement).2 rest

/-- **A session after statements:** the space has got their atoms and rules, both type layers have got the types
that they declare, and nothing else has changed. -/
structure Extended (session : Session) (statements : List Reader.Statement) (last : Session) : Prop where
  space : last.space = session.space.performAll (statements.filterMap operation?)
  checker : last.checker = (declarations session.supply statements).foldl
    (fun checker entry => checker.declare entry.1 entry.2) session.checker
  classifier : last.classifier = (declarations session.supply statements).foldl
    (fun classifier entry => declareShape classifier entry.1 entry.2) session.classifier
  config : last.config = session.config
  macros : last.macros = session.macros
  registry : last.registry = session.registry

theorem told?_performAll (space : Space) (history : List Space.Operation) :
    (space.performAll history).told? = space.told?.map (· ++ Space.announced history) := by
  induction history generalizing space with
  | nil => cases told : space.told? <;> simp [Space.performAll, Space.announced, told]
  | cons operation history ih =>
    change ((space.perform operation).performAll history).told? = _
    rw [ih]
    cases operation with
    | addAtom atom =>
      rw [Space.perform, Space.told?_addAtom]
      cases space.told? <;> simp [Space.announced, Space.Operation.added?]
    | removeAtom atom =>
      rw [Space.perform, Space.told?_removeAtom]
      rfl
    | addRule rule => rfl
    | clear => rfl

/-- One statement in front of others. -/
theorem Extended.prepend {session next last : Session} {statement : Reader.Statement}
    {rest : List Reader.Statement} (first : session.Extended [statement] next)
    (supply : next.supply = (declaration session.supply statement).2) (others : next.Extended rest last) :
    session.Extended (statement :: rest) last := by
  refine ⟨?_, ?_, ?_, ?_, ?_, ?_⟩
  · rw [others.space, first.space, Space.performAll, Space.performAll, Space.performAll,
      ← List.foldl_append, ← List.filterMap_append, List.singleton_append]
  · rw [others.checker, first.checker, ← List.foldl_append, supply]
    simp only [declarations, List.append_nil]
  · rw [others.classifier, first.classifier, ← List.foldl_append, supply]
    simp only [declarations, List.append_nil]
  · rw [others.config, first.config]
  · rw [others.macros, first.macros]
  · rw [others.registry, first.registry]

/-- One statement. -/
theorem extended_of_run {session next : Session} {statement : Reader.Statement} {result? : Option Term}
    (runs : session.run statement = .ok (result?, next)) :
    session.Extended [statement] next ∧ next.supply = (declaration session.supply statement).2 := by
  induction statement using statementCases with
  | evaluation term =>
    rw [run_evaluation] at runs
    cases evaluates : session.evaluate term with
    | error problem =>
      rw [evaluates] at runs
      cases runs
    | ok result =>
      rw [evaluates] at runs
      cases runs
      exact ⟨⟨rfl, rfl, rfl, rfl, rfl, rfl⟩, rfl⟩
  | equation pattern result =>
    rw [run_equation] at runs
    cases runs
    have operation : operation? ⟨.compound "=" [pattern, result], false⟩ =
        some (.addRule ⟨pattern, .template result⟩) := by simp [operation?, equation?_equation]
    have silent : declaration session.supply ⟨.compound "=" [pattern, result], false⟩ =
        (none, session.supply) := by simp [declaration, declaration?_equation]
    refine ⟨⟨?_, ?_, ?_, rfl, rfl, rfl⟩, ?_⟩
    · rw [List.filterMap_cons_some operation]
      rfl
    · simp only [declarations, silent]
      rfl
    · simp only [declarations, silent]
      rfl
    · rw [silent]
      rfl
  | declaration name expression =>
    rw [run_declaration] at runs
    cases reads : Ty.ofTerm expression session.supply with
    | error problem =>
      rw [reads] at runs
      cases runs
    | ok result =>
      rw [reads] at runs
      cases runs
      have operation : operation? ⟨.compound ":" [.atom name, expression], false⟩ =
          some (.addAtom (.compound ":" [.atom name, expression])) := by
        simp [operation?, equation?_declared]
      have declares : declaration session.supply ⟨.compound ":" [.atom name, expression], false⟩ =
          (some (name, result.1), result.2) := by simp [declaration, declaration?_declared, reads]
      simp only [declare_eq]
      refine ⟨⟨?_, ?_, ?_, rfl, rfl, rfl⟩, ?_⟩
      · rw [List.filterMap_cons_some operation]
        rfl
      · simp only [declarations, declares]
        rfl
      · simp only [declarations, declares]
        rfl
      · rw [declares]
        rfl
  | other term noEquation noDeclaration =>
    rw [run_other session noEquation noDeclaration] at runs
    cases runs
    have operation : operation? ⟨term, false⟩ = some (.addAtom term) := by simp [operation?, noEquation]
    have silent : declaration session.supply ⟨term, false⟩ = (none, session.supply) := by
      simp [declaration, noDeclaration]
    refine ⟨⟨?_, ?_, ?_, rfl, rfl, rfl⟩, ?_⟩
    · rw [List.filterMap_cons_some operation]
      rfl
    · simp only [declarations, silent]
      rfl
    · simp only [declarations, silent]
      rfl
    · rw [silent]
      rfl

/-- **Statements that do not fail** add what is theirs. -/
theorem extended_of_runAll {session last : Session} {statements : List Reader.Statement}
    {results : List Term} (runs : session.runAll statements = (.ok results, last)) :
    session.Extended statements last := by
  induction statements generalizing session results with
  | nil =>
    cases runs
    exact ⟨rfl, rfl, rfl, rfl, rfl, rfl⟩
  | cons statement rest ih =>
    rw [runAll] at runs
    cases first : session.run statement with
    | error problem =>
      rw [first] at runs
      cases runs
    | ok result =>
      obtain ⟨result?, next⟩ := result
      rw [first] at runs
      rcases others : next.runAll rest with ⟨problem | results', reached⟩
      · simp only [others] at runs
        cases runs
      · simp only [others] at runs
        cases runs
        obtain ⟨extended, supply⟩ := extended_of_run first
        exact extended.prepend supply (ih others)

/-- **A failing program leaves the statements before the failing one, and nothing else.** Loading comes to the
same whether statements are done as a whole or piece by piece on one session.  A text that is no program
leaves the session as it was.  A program fails just where a statement does, its evaluation or the type that it
writes, in the session that the statements before it have made by themselves; that is the session which is
left.  What it has over the one at the start is what these statements add to the space, to what its listener
has been told, and to the two type layers. -/
theorem load_failing (session : Session) (text : String) :
    (loadInPlace text).on session = session.load text ∧
    (∀ problem, Reader.readProgram text = .error problem →
      session.load text = (.error (.read problem), session)) ∧
    ∀ statements, Reader.readProgram text = .ok statements →
      (∀ problem last, session.load text = (.error problem, last) ↔
        ∃ before failing after results, statements = before ++ failing :: after ∧
          session.runAll before = (.ok results, last) ∧ last.Rejects failing problem) ∧
      ∀ before results last, session.runAll before = (.ok results, last) →
        session.Extended before last ∧
          last.space.told? = session.space.told?.map (· ++ Space.announced (before.filterMap operation?)) := by
  refine ⟨loadInPlace_on text session, ?_, ?_⟩
  · intro problem unread
    rw [load, unread]
  · intro statements reads
    refine ⟨fun problem last => ?_, fun before results last runs => ?_⟩
    · rw [load, reads]
      exact runAll_eq_error_iff
    · have extended := extended_of_runAll runs
      refine ⟨extended, ?_⟩
      rw [extended.space, told?_performAll]

/-- A text that is no program, and one whose third statement of four writes no type: the two before it stay,
and nothing of it and of the last. -/
theorem load_failing_malformed :
    brief.load "(a" = (.error (.read (.unbalanced 0)), brief) ∧
    Reader.readProgram "(: a Number) (= a b) (: b (->)) c" =
      .ok [⟨.compound ":" [.atom "a", .atom "Number"], false⟩,
        ⟨.compound "=" [.atom "a", .atom "b"], false⟩,
        ⟨.compound ":" [.atom "b", .compound "->" []], false⟩, ⟨.atom "c", false⟩] ∧
    ∃ last, brief.withListener.load "(: a Number) (= a b) (: b (->)) c" =
        (.error (.type (.malformed (.compound "->" []))), last) ∧
      brief.withListener.Extended [⟨.compound ":" [.atom "a", .atom "Number"], false⟩,
        ⟨.compound "=" [.atom "a", .atom "b"], false⟩] last ∧
      last.space.told? = some [.compound ":" [.atom "a", .atom "Number"]] := by
  have reads : Reader.readProgram "(: a Number) (= a b) (: b (->)) c" =
      .ok [⟨.compound ":" [.atom "a", .atom "Number"], false⟩,
        ⟨.compound "=" [.atom "a", .atom "b"], false⟩,
        ⟨.compound ":" [.atom "b", .compound "->" []], false⟩, ⟨.atom "c", false⟩] := rfl
  obtain ⟨fails, adds⟩ :=
    (load_failing brief.withListener "(: a Number) (= a b) (: b (->)) c").2.2 _ reads
  have rejects : ∀ session : Session,
      session.Rejects ⟨.compound ":" [.atom "b", .compound "->" []], false⟩
        (.type (.malformed (.compound "->" []))) := fun session => .malformed (.whole _) rfl
  refine ⟨(load_failing brief "(a").2.1 _ rfl, reads, _,
    (fails _ _).2 ⟨[_, _], _, [_], _, rfl, rfl, rejects _⟩, ?_⟩
  exact adds _ _ _ rfl

end TermSpace.Session
