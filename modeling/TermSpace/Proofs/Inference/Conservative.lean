import TermSpace.Inference.Checker
import TermSpace.Proofs.Ty.Annotations
import TermSpace.Proofs.Ty.UnificationDepth

/-!
# The simple strategy is conservative

Simple unification stops where the structure of types would have to be looked at.  Up to there it does what
Hindley-Milner unification does at its first level: the tests are the same, in the same order, and none of
them draws on the supply (`Strategy.unify_hindleyMilner_of_simple`).  Two unifiers that agree on a constraint
go on with the same substitution and the same supply, so they agree on what comes after it; and a checker has
collected its constraints before its strategy has a say (`Checker.simple_conservative`).
-/

namespace TermSpace

set_option autoImplicit false

namespace Strategy

/-- **What meets simply meets,** and in the same way. -/
theorem unify_hindleyMilner_of_simple {first second : Ty} {subst : Subst} {supply : Nat}
    {result : Subst × Nat} (meets : simple.unify first second subst supply = some result) :
    hindleyMilner.unify first second subst supply = some result := by
  obtain ⟨depth, deep⟩ :
      ∃ depth, unificationDepth (subst.apply first) (subst.apply second) = depth + 1 :=
    Nat.exists_eq_succ_of_ne_zero (Nat.two_pow_pos _).ne'
  simp only [unify] at meets
  simp only [unify, deep]
  by_cases same : subst.apply first = subst.apply second
  · rw [if_pos same] at meets
    simpa only [unifyWithin, if_pos same] using meets
  rw [if_neg same] at meets
  split at meets
  · next id other atFirst =>
    rw [unifyWithin_bindFirst atFirst same]
    exact meets
  · next id other atSecond notVar =>
    rw [unifyWithin_bindSecond atSecond notVar]
    exact meets
  · simp at meets

/-- The solvers go on alike after every constraint. -/
theorem solveFrom_hindleyMilner_of_simple {constraints : List Constraint} {subst : Subst} {supply : Nat}
    {result : Subst × Nat} (solves : simple.solveFrom subst supply constraints = .ok result) :
    hindleyMilner.solveFrom subst supply constraints = .ok result := by
  induction constraints generalizing subst supply with
  | nil => exact solves
  | cons wanted rest ih =>
    simp only [solveFrom] at solves ⊢
    split at solves
    · next extended left meets =>
      rw [unify_hindleyMilner_of_simple meets]
      exact ih solves
    · simp at solves

end Strategy

namespace Checker

section Running

variable {declarations : Dict String Ty} {term : Term} {supply : Nat}

theorem run_hindleyMilner_of_simple {expected? : Option Ty} {inferred : Inferred}
    (runs : Checker.run ⟨.simple, declarations⟩ term expected? supply = .ok inferred) :
    Checker.run ⟨.hindleyMilner, declarations⟩ term expected? supply = .ok inferred := by
  obtain ⟨collected, collects, rest⟩ := bind_eq_ok.1 runs
  obtain ⟨solution, solves, ends⟩ := bind_eq_ok.1 rest
  exact bind_eq_ok.2 ⟨collected, collects,
    bind_eq_ok.2 ⟨solution, Strategy.solveFrom_hindleyMilner_of_simple solves, ends⟩⟩

theorem check_hindleyMilner_of_simple {expected ty : Ty}
    (checks : Checker.check ⟨.simple, declarations⟩ term expected supply = .ok ty) :
    Checker.check ⟨.hindleyMilner, declarations⟩ term expected supply = .ok ty := by
  unfold check at checks ⊢
  cases runs : Checker.run ⟨.simple, declarations⟩ term (some expected) supply with
  | error problem => simp [runs, Except.map] at checks
  | ok inferred =>
    rw [run_hindleyMilner_of_simple runs, ← runs]
    exact checks

end Running

/-- **The simple strategy is a conservative restriction.** Where simple unification succeeds, Hindley-Milner
unification gives the same substitution and leaves the same supply; so do the solvers on a list of
constraints; and whatever a simple checker infers or checks, a Hindley-Milner checker with the same
declarations infers or checks with the same type, the same solution and the same types of variables. -/
theorem simple_conservative :
    (∀ first second subst supply result,
      Strategy.simple.unify first second subst supply = some result →
        Strategy.hindleyMilner.unify first second subst supply = some result) ∧
    (∀ constraints supply result, Strategy.simple.solve constraints supply = .ok result →
      Strategy.hindleyMilner.solve constraints supply = .ok result) ∧
    ∀ declarations term supply,
      (∀ expected? inferred,
        Checker.run ⟨.simple, declarations⟩ term expected? supply = .ok inferred →
          Checker.run ⟨.hindleyMilner, declarations⟩ term expected? supply = .ok inferred) ∧
      (∀ inferred, Checker.infer ⟨.simple, declarations⟩ term supply = .ok inferred →
        Checker.infer ⟨.hindleyMilner, declarations⟩ term supply = .ok inferred) ∧
      ∀ expected ty, Checker.check ⟨.simple, declarations⟩ term expected supply = .ok ty →
        Checker.check ⟨.hindleyMilner, declarations⟩ term expected supply = .ok ty := by
  refine ⟨?_, ?_, fun declarations term supply => ⟨?_, ?_, ?_⟩⟩
  · intro first second subst supply result meets
    exact Strategy.unify_hindleyMilner_of_simple meets
  · intro constraints supply result solves
    exact Strategy.solveFrom_hindleyMilner_of_simple solves
  · intro expected? inferred runs
    exact run_hindleyMilner_of_simple runs
  · intro inferred infers
    exact run_hindleyMilner_of_simple infers
  · intro expected ty checks
    exact check_hindleyMilner_of_simple checks

/-- A variable applied to a number, where a truth value is expected, is a function from numbers to truth values
to either checker. -/
theorem simple_conservative_application :
    ∃ inferred,
      Checker.run ⟨.simple, ∅⟩ (.apply (.atom "$f") [.atom "5"]) (some .bool) 0 = .ok inferred ∧
      Checker.run ⟨.hindleyMilner, ∅⟩ (.apply (.atom "$f") [.atom "5"]) (some .bool) 0 = .ok inferred ∧
      inferred.ty = .bool ∧ inferred.variableTypes.get? "$f" = some (.arrow .number .bool) :=
  ⟨_, rfl, (simple_conservative.2.2 ∅ _ 0).1 _ _ rfl, rfl, rfl⟩

end Checker

end TermSpace
