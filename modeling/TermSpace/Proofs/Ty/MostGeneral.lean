import TermSpace.Proofs.Ty.UnificationDepth

/-!
# Most general solutions

A list of constraints is solved one constraint after the other, each under the substitution that the ones
before it have led to.  Between types without quantifiers this computes most general unifiers
(`Strategy.solve_mostGeneral`).

What carries the result is that the substitution reached so far is solved by exactly the assignments under
which the constraints so far hold (`SolveRun.exact`).  Whether there is a solution is then a matter of the
constraints, of neither their order nor their sides, and the first constraint that unification gives up on
is the first whose prefix of the list has none.
-/

namespace TermSpace

set_option autoImplicit false

/-! ## Constraints under assignments -/

namespace Constraint

/-- A constraint holds under an assignment that makes its two sides equal. -/
def Holds (wanted : Constraint) (assignment : Nat → Ty) : Prop :=
  wanted.left.under assignment = wanted.right.under assignment

/-- There is no quantifier on either side. -/
def QuantifierFree (wanted : Constraint) : Prop :=
  wanted.left.quantifierFree ∧ wanted.right.quantifierFree

/-- A constraint with its sides swapped. -/
def swap (wanted : Constraint) : Constraint := ⟨wanted.right, wanted.left, wanted.origin⟩

/-- Two constraints are the same up to their sides. -/
def Alike (first second : Constraint) : Prop := second = first ∨ second = first.swap

theorem Alike.holds_iff {first second : Constraint} (alike : first.Alike second)
    (assignment : Nat → Ty) : second.Holds assignment ↔ first.Holds assignment := by
  rcases alike with rfl | rfl
  · exact Iff.rfl
  · exact eq_comm

theorem Alike.quantifierFree {first second : Constraint} (alike : first.Alike second)
    (free : first.QuantifierFree) : second.QuantifierFree := by
  rcases alike with rfl | rfl
  · exact free
  · exact free.symm

end Constraint

/-- All constraints hold. -/
def Solves (assignment : Nat → Ty) (constraints : List Constraint) : Prop :=
  ∀ wanted ∈ constraints, wanted.Holds assignment

theorem solves_cons {assignment : Nat → Ty} {wanted : Constraint} {rest : List Constraint} :
    Solves assignment (wanted :: rest) ↔ wanted.Holds assignment ∧ Solves assignment rest :=
  List.forall_mem_cons

theorem solves_of_forall₂ {constraints turned : List Constraint}
    (alike : List.Forall₂ Constraint.Alike constraints turned) (assignment : Nat → Ty) :
    Solves assignment turned ↔ Solves assignment constraints := by
  induction alike with
  | nil => exact Iff.rfl
  | cons head _ ih => rw [solves_cons, solves_cons, head.holds_iff, ih]

theorem quantifierFree_of_forall₂ {constraints turned : List Constraint}
    (alike : List.Forall₂ Constraint.Alike constraints turned)
    (free : ∀ wanted ∈ constraints, wanted.QuantifierFree) :
    ∀ wanted ∈ turned, wanted.QuantifierFree := by
  induction alike with
  | nil => exact free
  | cons head _ ih =>
    rw [List.forall_mem_cons] at free ⊢
    exact ⟨head.quantifierFree free.1, ih free.2⟩

/-! ## Runs -/

/-- What solving does, and how it ends. -/
inductive SolveRun : Subst → (supply : Nat) → List Constraint → Except TypeError (Subst × Nat) → Prop where
  | done (subst : Subst) (supply : Nat) : SolveRun subst supply [] (.ok (subst, supply))
  | next {subst extended : Subst} {supply left : Nat} {wanted : Constraint} {rest : List Constraint}
      {outcome : Except TypeError (Subst × Nat)}
      (meets : UnifyRun wanted.left wanted.right subst supply (some (extended, left)))
      (later : SolveRun extended left rest outcome) : SolveRun subst supply (wanted :: rest) outcome
  | fail {subst : Subst} {supply : Nat} {wanted : Constraint} {rest : List Constraint}
      (apart : UnifyRun wanted.left wanted.right subst supply none) :
      SolveRun subst supply (wanted :: rest) (.error (wanted.explain subst))

/-- The outcome of solving says exactly which assignments solve a substitution and some constraints. -/
def ExactSolving (subst : Subst) (supply : Nat) (constraints : List Constraint) :
    Except TypeError (Subst × Nat) → Prop
  | .ok (solution, left) =>
    left = supply ∧ solution.Regular ∧ ∀ assignment, solution.SolvedBy assignment ↔
      subst.SolvedBy assignment ∧ Solves assignment constraints
  | .error _ => ∀ assignment, subst.SolvedBy assignment → ¬ Solves assignment constraints

/-- **Exactness.** -/
theorem SolveRun.exact {subst : Subst} {supply : Nat} {constraints : List Constraint}
    {outcome : Except TypeError (Subst × Nat)} (run : SolveRun subst supply constraints outcome)
    (regular : subst.Regular) (free : ∀ wanted ∈ constraints, wanted.QuantifierFree) :
    ExactSolving subst supply constraints outcome := by
  induction run with
  | done subst supply =>
    refine ⟨rfl, regular, fun assignment => ?_⟩
    exact ⟨fun solved => ⟨solved, by simp [Solves]⟩, fun both => both.1⟩
  | @next subst extended supply left wanted rest outcome meets later ih =>
    rw [List.forall_mem_cons] at free
    obtain ⟨rfl, regularNext, solutions⟩ := meets.exact regular free.1
    have atRest := ih regularNext free.2
    cases outcome with
    | ok result =>
      obtain ⟨same, regularLast, solutionsLast⟩ := atRest
      refine ⟨same, regularLast, fun assignment => ?_⟩
      rw [solutionsLast, solutions, solves_cons, and_assoc]
      exact Iff.rfl
    | error error =>
      intro assignment solved all
      have both := solves_cons.1 all
      exact atRest assignment ((solutions assignment).2 ⟨solved, both.1⟩) both.2
  | @fail subst supply wanted rest apart =>
    intro assignment solved all
    rw [List.forall_mem_cons] at free
    exact apart.exact regular free.1 assignment solved (solves_cons.1 all).1

namespace Strategy

/-- **Solving does what a run does.** -/
theorem solveFrom_run {subst : Subst} (supply : Nat) (regular : subst.Regular)
    {constraints : List Constraint} (free : ∀ wanted ∈ constraints, wanted.QuantifierFree) :
    SolveRun subst supply constraints (hindleyMilner.solveFrom subst supply constraints) := by
  induction constraints generalizing subst supply with
  | nil => exact .done subst supply
  | cons wanted rest ih =>
    rw [List.forall_mem_cons] at free
    have first := unify_run supply regular free.1
    unfold solveFrom
    cases ends : hindleyMilner.unify wanted.left wanted.right subst supply with
    | none =>
      rw [ends] at first
      exact .fail first
    | some result =>
      obtain ⟨extended, left⟩ := result
      rw [ends] at first
      obtain ⟨-, regularNext, -⟩ := first.exact regular free.1
      exact .next first (ih left regularNext free.2)

/-- Where solving fails, it has solved the constraints before. -/
theorem solveFrom_error {strategy : Strategy} {subst : Subst} {supply : Nat}
    {constraints : List Constraint} {error : TypeError}
    (fails : strategy.solveFrom subst supply constraints = .error error) :
    ∃ before wanted after reached left, constraints = before ++ wanted :: after ∧
      strategy.solveFrom subst supply before = .ok (reached, left) ∧
      strategy.unify wanted.left wanted.right reached left = none ∧ error = wanted.explain reached := by
  induction constraints generalizing subst supply with
  | nil => simp [solveFrom] at fails
  | cons first rest ih =>
    unfold solveFrom at fails
    cases ends : strategy.unify first.left first.right subst supply with
    | none =>
      rw [ends] at fails
      exact ⟨[], first, rest, subst, supply, rfl, rfl, ends, (Except.error.inj fails).symm⟩
    | some result =>
      obtain ⟨extended, further⟩ := result
      rw [ends] at fails
      obtain ⟨before, wanted, after, reached, left, rfl, reaches, apart, same⟩ := ih fails
      refine ⟨first :: before, wanted, after, reached, left, rfl, ?_, apart, same⟩
      rw [solveFrom, ends]
      exact reaches

section Solving

variable {constraints : List Constraint}

theorem solve_run (supply : Nat) (free : ∀ wanted ∈ constraints, wanted.QuantifierFree) :
    SolveRun ∅ supply constraints (hindleyMilner.solve constraints supply) :=
  solveFrom_run supply Subst.regular_empty free

/-- The assignments that solve a solution are those that solve the constraints. -/
theorem solve_exact {supply left : Nat} (free : ∀ wanted ∈ constraints, wanted.QuantifierFree)
    {solution : Subst} (solved : hindleyMilner.solve constraints supply = .ok (solution, left)) :
    left = supply ∧ solution.Regular ∧
      ∀ assignment, solution.SolvedBy assignment ↔ Solves assignment constraints := by
  have exact := (solve_run supply free).exact Subst.regular_empty free
  rw [solved] at exact
  obtain ⟨same, regular, solutions⟩ := exact
  refine ⟨same, regular, fun assignment => (solutions assignment).trans ?_⟩
  exact and_iff_right (Subst.solvedBy_empty assignment)

theorem solve_isOk_iff (supply : Nat) (free : ∀ wanted ∈ constraints, wanted.QuantifierFree) :
    (∃ solution left, hindleyMilner.solve constraints supply = .ok (solution, left)) ↔
      ∃ assignment, Solves assignment constraints := by
  constructor
  · rintro ⟨solution, left, solved⟩
    obtain ⟨-, regular, solutions⟩ := solve_exact free solved
    exact ⟨solution.image, (solutions _).1 regular.acyclic.solvedBy_image⟩
  · rintro ⟨assignment, all⟩
    have exact := (solve_run supply free).exact Subst.regular_empty free
    cases ends : hindleyMilner.solve constraints supply with
    | ok result => exact ⟨result.1, result.2, rfl⟩
    | error error =>
      rw [ends] at exact
      exact absurd all (exact assignment (Subst.solvedBy_empty assignment))

/-- A solution makes the sides of every constraint equal. -/
theorem apply_eq_of_solve {supply left : Nat} (free : ∀ wanted ∈ constraints, wanted.QuantifierFree)
    {solution : Subst} (solved : hindleyMilner.solve constraints supply = .ok (solution, left)) :
    ∀ wanted ∈ constraints, solution.apply wanted.left = solution.apply wanted.right := by
  intro wanted member
  obtain ⟨-, regular, solutions⟩ := solve_exact free solved
  rw [Subst.apply_eq_under, Subst.apply_eq_under]
  exact (solutions _).1 regular.acyclic.solvedBy_image wanted member

/-- An assignment that solves the constraints takes up where a solution leaves off. -/
theorem factor_of_solve {supply left : Nat} (free : ∀ wanted ∈ constraints, wanted.QuantifierFree)
    {solution : Subst} (solved : hindleyMilner.solve constraints supply = .ok (solution, left))
    {assignment : Nat → Ty} (all : Solves assignment constraints) (ty : Ty) :
    ty.under assignment = (solution.apply ty).under assignment := by
  obtain ⟨-, -, solutions⟩ := solve_exact free solved
  exact (((solutions assignment).2 all).under_apply ty).symm

end Solving

/-- **Solving computes most general unifiers.** For constraints without quantifiers it terminates, and
it succeeds if and only if some assignment makes the sides of every constraint equal.  Then the solution does
so, and every such assignment is the solution followed by another one.  Neither the order of the constraints
nor that of their sides matters to success, and the error of a failure is that of the first constraint
whose prefix of the list has no common solution. -/
theorem solve_mostGeneral (constraints : List Constraint) (supply : Nat)
    (free : ∀ wanted ∈ constraints, wanted.QuantifierFree) :
    SolveRun ∅ supply constraints (hindleyMilner.solve constraints supply) ∧
    ((∃ solution left, hindleyMilner.solve constraints supply = .ok (solution, left)) ↔
      ∃ assignment, Solves assignment constraints) ∧
    (∀ solution left, hindleyMilner.solve constraints supply = .ok (solution, left) →
      (∀ wanted ∈ constraints, solution.apply wanted.left = solution.apply wanted.right) ∧
      ∀ assignment, Solves assignment constraints →
        ∃ rest : Nat → Ty, ∀ id, assignment id = (solution.apply (.var id)).under rest) ∧
    (∀ turned others supply', List.Forall₂ Constraint.Alike constraints turned → turned.Perm others →
      ((∃ solution left, hindleyMilner.solve others supply' = .ok (solution, left)) ↔
        ∃ solution left, hindleyMilner.solve constraints supply = .ok (solution, left))) ∧
    ∀ error, hindleyMilner.solve constraints supply = .error error →
      ∃ before wanted after reached, constraints = before ++ wanted :: after ∧
        (∃ assignment, Solves assignment before) ∧
        (¬ ∃ assignment, Solves assignment (before ++ [wanted])) ∧
        hindleyMilner.solve before supply = .ok (reached, supply) ∧ error = wanted.explain reached := by
  refine ⟨solve_run supply free, solve_isOk_iff supply free, ?_, ?_, ?_⟩
  · intro solution left solved
    refine ⟨apply_eq_of_solve free solved, fun assignment all => ⟨assignment, fun id => ?_⟩⟩
    exact factor_of_solve free solved all (.var id)
  · intro turned others supply' alike permuted
    have freeTurned := quantifierFree_of_forall₂ alike free
    have freeOthers : ∀ wanted ∈ others, wanted.QuantifierFree := by
      intro wanted member
      exact freeTurned wanted (permuted.mem_iff.2 member)
    rw [solve_isOk_iff supply' freeOthers, solve_isOk_iff supply free]
    refine exists_congr fun assignment => ?_
    rw [← solves_of_forall₂ alike]
    unfold Solves
    simp only [permuted.mem_iff]
  · intro error fails
    obtain ⟨before, wanted, after, reached, left, rfl, reaches, apart, same⟩ := solveFrom_error fails
    have freeBefore : ∀ earlier ∈ before, earlier.QuantifierFree := by
      intro earlier member
      exact free earlier (List.mem_append_left _ member)
    have freeWanted : wanted.QuantifierFree := free wanted (by simp)
    obtain ⟨rfl, regular, solutions⟩ := solve_exact freeBefore reaches
    refine ⟨before, wanted, after, reached, rfl, (solve_isOk_iff left freeBefore).1 ⟨_, _, reaches⟩, ?_,
      reaches, same⟩
    rintro ⟨assignment, all⟩
    have run := unify_run left regular freeWanted
    rw [apart] at run
    refine run.exact regular freeWanted assignment ?_ (all wanted (by simp))
    exact (solutions assignment).2 fun earlier member => all earlier (List.mem_append_left _ member)

/-- Constraints that bind `'t0` to a type around `'t1`, and then `'t1`. -/
def nested : List Constraint :=
  [⟨.var 0, .list (.var 1), .atom "a"⟩, ⟨.arrow (.var 1) .bool, .arrow (.maybe (.var 2)) .bool, .atom "b"⟩]

/-- The binding of `'t1` shows in the type of `'t0`, and `'t2` is left open by every solution. -/
theorem solve_mostGeneral_nested :
    (∀ wanted ∈ nested, wanted.QuantifierFree) ∧
    ∃ solution, hindleyMilner.solve nested 3 = .ok (solution, 3) ∧
      solution.apply (.var 0) = .list (.maybe (.var 2)) ∧
      ∀ assignment, Solves assignment nested →
        ∃ rest : Nat → Ty, ∀ id, assignment id = (solution.apply (.var id)).under rest := by
  have free : ∀ wanted ∈ nested, wanted.QuantifierFree := by
    simp [nested, Constraint.QuantifierFree, Ty.quantifierFree, Ty.bool]
  refine ⟨free, _, rfl, rfl, ?_⟩
  exact ((solve_mostGeneral nested 3 free).2.2.1 _ _ rfl).2

end Strategy

end TermSpace
