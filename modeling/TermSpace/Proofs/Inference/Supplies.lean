import TermSpace.Inference.Checker
import TermSpace.Proofs.Inference.Collecting
import TermSpace.Proofs.Ty.RelabeledUnification

/-!
# Inference from another supply

Two runs of a checker on one term draw different variables if they start from different supplies.  This is the
only difference.  From the later supply everything is collected with other variables, those drawn being moved up
by the same amount and those of the declarations and of the expected type being left where they are; and
constraints with other variables are solved with other variables.  So both runs fail, with errors that say
the same, or both succeed, with types, solutions and types of variables that are the same
(`run_counterpart`).

Going from the later supply to the earlier one is the same in the other direction.
-/

namespace TermSpace

set_option autoImplicit false

variable {floor : Nat} {move : Nat → Nat}

namespace Inference

/-! ## What is collected -/

namespace Collected

/-- What has been collected, with other variables. -/
def relabel (move : Nat → Nat) (state : Collected) : Collected where
  supply := move state.supply
  context := state.context.mapValues (Ty.relabel move)
  seen := state.seen.mapValues (Ty.relabel move)
  constraints := state.constraints.map (Constraint.relabel move)

/-- A type and what has been collected, and the same with other variables. -/
def Moved (floor : Nat) (move : Nat → Nat) (before after : Ty × Collected) : Prop :=
  after = (before.1.relabel move, before.2.relabel move) ∧ floor ≤ before.2.supply

theorem enter_relabel (state : Collected) (name : String) (ty : Ty) :
    (state.relabel move).enter name (ty.relabel move) = (state.enter name ty).relabel move := by
  have known : (state.relabel move).seen.contains name = state.seen.contains name := by
    simp only [relabel, Dict.contains, Dict.get?_mapValues, Option.isSome_map]
  unfold enter
  rw [known]
  simp only [relabel, Dict.mapValues_insert]
  split
  · rfl
  · simp only [Dict.mapValues_insert]

theorem leave_relabel (state : Collected) (outer : Dict String Ty) (name : String) :
    (state.relabel move).leave (outer.mapValues (Ty.relabel move)) name =
      (state.leave outer name).relabel move := by
  unfold leave
  rw [Dict.get?_mapValues]
  cases outer.get? name with
  | none => simp only [relabel, Option.map_none, Dict.mapValues_erase]
  | some ty => simp only [relabel, Option.map_some, Dict.mapValues_insert]

section Drawing

variable (raises : Raises floor move)
include raises

/-- Drawing one variable. -/
theorem draw_relabel {state : Collected} (above : floor ≤ state.supply) :
    ({ state.relabel move with supply := (state.relabel move).supply + 1 } : Collected) =
      relabel move { state with supply := state.supply + 1 } := by
  simp only [relabel, raises.next _ above]

theorem moved_variableTy {state : Collected} (above : floor ≤ state.supply) (name : String) :
    Moved floor move (state.variableTy name) ((state.relabel move).variableTy name) := by
  unfold variableTy
  have known : (state.relabel move).context.get? name =
      (state.context.get? name).map (Ty.relabel move) := Dict.get?_mapValues _ _ _
  rw [known]
  cases state.context.get? name with
  | some ty => exact ⟨rfl, above⟩
  | none =>
    refine ⟨Prod.ext rfl ?_, Nat.le_succ_of_le above⟩
    simp only [Option.map_none, fresh, draw_relabel raises above, ← enter_relabel]
    rfl

theorem moved_literalTy {declarations : Dict String Ty}
    (fixed : ∀ name ty, declarations.get? name = some ty → ty.relabel move = ty) {state : Collected}
    (above : floor ≤ state.supply) (name : String) :
    Moved floor move (state.literalTy declarations name)
      ((state.relabel move).literalTy declarations name) := by
  unfold literalTy
  split
  · exact ⟨rfl, above⟩
  split
  · exact ⟨rfl, above⟩
  split
  · exact ⟨rfl, above⟩
  split
  · next ty found =>
    have drawn := Ty.instantiate_relabel raises above ty
    rw [fixed name ty found] at drawn
    refine ⟨?_, Nat.le_trans above (Ty.le_instantiate _ _)⟩
    simp only [relabel, drawn]
  · exact ⟨rfl, above⟩

end Drawing

end Collected

open Collected (Moved)

/-- An annotation is read from another supply. -/
theorem relabeled_ofTerm (raises : Raises floor move) {supply : Nat} (above : floor ≤ supply)
    (ascription : Term) :
    Relabeled move (fun before after => after = (before.1.relabel move, move before.2) ∧ floor ≤ before.2)
      (Ty.ofTerm ascription supply) (Ty.ofTerm ascription (move supply)) := by
  rw [Ty.ofTerm_eq_shift ascription supply, Ty.ofTerm_eq_shift ascription (move supply)]
  cases reads : Ty.ofTerm ascription 0 with
  | error problem =>
    obtain ⟨part, -, rfl⟩ := Ty.reports_of_ofTerm reads
    exact .error (.malformed part)
  | ok result =>
    refine .ok ⟨?_, Nat.le_add_right_of_le above⟩
    rw [Ty.relabel_shift raises above, raises.add above]

/-- Going through a term comes to the same with other variables. -/
def Relabels (declarations : Dict String Ty) (floor : Nat) (move : Nat → Nat) (term : Term) : Prop :=
  ∀ ⦃state : Collected⦄, floor ≤ state.supply →
    Relabeled move (Moved floor move) (collect declarations state term)
      (collect declarations (state.relabel move) term)

theorem relabels_collectAll {declarations : Dict String Ty} {terms : List Term}
    (relabels : ∀ term ∈ terms, Relabels declarations floor move term) {state : Collected}
    (above : floor ≤ state.supply) :
    Relabeled move (fun before after => after = before.relabel move ∧ floor ≤ before.supply)
      (collectAll declarations state terms) (collectAll declarations (state.relabel move) terms) := by
  induction terms generalizing state with
  | nil => exact .ok ⟨rfl, above⟩
  | cons term rest ih =>
    rw [List.forall_mem_cons] at relabels
    rw [collectAll, collectAll]
    refine (relabels.1 above).bind ?_
    rintro ⟨ty, middle⟩ _ ⟨rfl, aboveNext⟩
    exact ih relabels.2 aboveNext

namespace Relabels

variable {declarations : Dict String Ty}

theorem name (raises : Raises floor move)
    (fixed : ∀ name ty, declarations.get? name = some ty → ty.relabel move = ty) (name : String) :
    Relabels declarations floor move (.atom name) := by
  intro state above
  by_cases isVariable : Term.isVariableName name
  · rw [collect_variable isVariable, collect_variable isVariable]
    exact .ok (Collected.moved_variableTy raises above name)
  · rw [collect_name isVariable, collect_name isVariable]
    exact .ok (Collected.moved_literalTy raises fixed above name)

theorem application (raises : Raises floor move) {head arguments : Term}
    (ofHead : Relabels declarations floor move head)
    (ofArguments : Relabels declarations floor move arguments) :
    Relabels declarations floor move (.compound Term.applyOperator [head, arguments]) := by
  intro state above
  rw [collect, if_pos rfl, collect, if_pos rfl]
  refine (ofHead above).bind ?_
  rintro ⟨headTy, middle⟩ _ ⟨rfl, aboveMiddle⟩
  refine (ofArguments aboveMiddle).bind ?_
  rintro ⟨argumentsTy, last⟩ _ ⟨rfl, aboveLast⟩
  refine .ok ⟨Prod.ext rfl ?_, Nat.le_succ_of_le aboveLast⟩
  simp only [Collected.draw_relabel raises aboveLast]
  rfl

theorem product {first : Term} {rest : List Term} (ofFirst : Relabels declarations floor move first)
    (ofRest : ∀ part ∈ rest, Relabels declarations floor move part) :
    Relabels declarations floor move (.compound Term.productOperator (first :: rest)) := by
  intro state above
  rw [collect_product_eq, collect_product_eq]
  refine (ofFirst above).bind ?_
  rintro ⟨ty, middle⟩ _ ⟨rfl, aboveMiddle⟩
  refine (relabels_collectAll ofRest aboveMiddle).bind ?_
  rintro last _ ⟨rfl, aboveLast⟩
  exact .ok ⟨rfl, aboveLast⟩

theorem equation {operator : String} (isOperator : isEquation operator) {left right : Term}
    (ofLeft : Relabels declarations floor move left) (ofRight : Relabels declarations floor move right) :
    Relabels declarations floor move (.compound operator [left, right]) := by
  intro state above
  have apart := ne_of_isEquation isOperator
  rw [collect, if_neg apart.1, if_neg apart.2, if_pos isOperator,
    collect, if_neg apart.1, if_neg apart.2, if_pos isOperator]
  refine (ofLeft above).bind ?_
  rintro ⟨leftTy, middle⟩ _ ⟨rfl, aboveMiddle⟩
  refine (ofRight aboveMiddle).bind ?_
  rintro ⟨rightTy, last⟩ _ ⟨rfl, aboveLast⟩
  exact .ok ⟨rfl, aboveLast⟩

theorem abstraction (raises : Raises floor move) {operator : String} (isOperator : isAbstraction operator)
    {parameter body : Term} (isVariable : parameter.isVariable)
    (ofBody : Relabels declarations floor move body) :
    Relabels declarations floor move (.compound operator [parameter, body]) := by
  intro state above
  have apart := ne_of_isAbstraction isOperator
  rw [collect, if_neg apart.1, if_neg apart.2.1, if_neg apart.2.2, if_pos isOperator,
    collect, if_neg apart.1, if_neg apart.2.1, if_neg apart.2.2, if_pos isOperator]
  simp only [if_pos isVariable, Collected.fresh, Collected.draw_relabel raises above]
  have atBody := @ofBody
    ({ state with supply := state.supply + 1 }.enter parameter.name (.var state.supply))
    (Nat.le_succ_of_le above)
  rw [← Collected.enter_relabel] at atBody
  refine atBody.bind ?_
  rintro ⟨bodyTy, inner⟩ _ ⟨rfl, aboveInner⟩
  refine .ok ⟨Prod.ext rfl (Collected.leave_relabel inner state.context parameter.name), ?_⟩
  rw [Collected.supply_leave]
  exact aboveInner

theorem annotated (raises : Raises floor move) {subject ascription : Term}
    (ofSubject : Relabels declarations floor move subject) :
    Relabels declarations floor move (.compound ":" [subject, ascription]) := by
  intro state above
  rw [collect, if_neg (by decide), if_neg (by decide), if_neg (by decide), if_neg (by decide), if_pos rfl,
    collect, if_neg (by decide), if_neg (by decide), if_neg (by decide), if_neg (by decide), if_pos rfl]
  refine (relabeled_ofTerm raises above ascription).bind ?_
  rintro ⟨declared, supply⟩ _ ⟨rfl, aboveNext⟩
  refine Relabeled.bind (@ofSubject { state with supply } aboveNext) ?_
  rintro ⟨subjectTy, last⟩ _ ⟨rfl, aboveLast⟩
  exact .ok ⟨rfl, aboveLast⟩

theorem other {term : Term} (noForm : ¬ Form term) : Relabels declarations floor move term := by
  intro state above
  rw [collect_other noForm, collect_other noForm]
  exact .ok ⟨rfl, above⟩

end Relabels

/-- **Going through any term comes to the same with other variables.** -/
theorem relabels (raises : Raises floor move) {declarations : Dict String Ty}
    (fixed : ∀ name ty, declarations.get? name = some ty → ty.relabel move = ty) (term : Term) :
    Relabels declarations floor move term := by
  induction term using LooksAt.induction with
  | step term ih =>
    by_cases form : Form term
    · cases form with
      | name name => exact .name raises fixed name
      | application head arguments =>
        exact .application raises (ih _ (.head head arguments)) (ih _ (.arguments head arguments))
      | product first rest =>
        refine .product (ih _ (.component List.mem_cons_self)) ?_
        intro part member
        exact ih part (.component (List.mem_cons_of_mem _ member))
      | equation isOperator left right =>
        exact .equation isOperator (ih _ (.left isOperator left right)) (ih _ (.right isOperator left right))
      | abstraction isOperator isVariable body =>
        exact .abstraction raises isOperator isVariable (ih _ (.body isOperator isVariable body))
      | annotated subject ascription => exact .annotated raises (ih _ (.subject subject ascription))
    · exact .other form

end Inference

/-! ## What is inferred -/

/-- What is known of a term, and the same with other variables. -/
structure Inferred.Moved (move : Nat → Nat) (before after : Inferred) : Prop where
  ty : after.ty = before.ty.relabel move
  solution : after.solution.entries = before.solution.entries.map (Subst.relabelEntry move)
  variableTypes : after.variableTypes = before.variableTypes.mapValues (Ty.relabel move)

/-- Constraints are solved with other variables, and the solution is applied to what was collected. -/
theorem Inference.relabeled_solve (raises : Raises floor move) (strategy : Strategy) (ty : Ty)
    {state : Collected} (above : floor ≤ state.supply) :
    Relabeled move (Inferred.Moved move)
      (do
        let (solution, _) ← strategy.solve state.constraints.reverse state.supply
        return ⟨solution.apply ty, solution, state.seen.mapValues solution.apply⟩)
      (do
        let (solution, _) ← strategy.solve (state.relabel move).constraints.reverse (move state.supply)
        return ⟨solution.apply (ty.relabel move), solution,
          (state.relabel move).seen.mapValues solution.apply⟩) := by
  have solved := @Strategy.solveFrom_relabel _ _ raises strategy state.constraints.reverse ∅ _ above
  rw [List.map_reverse] at solved
  refine Relabeled.bind solved ?_
  rintro ⟨solution, left⟩ _ ⟨rfl, -⟩
  refine .ok ⟨Subst.apply_relabel raises.order solution ty, rfl, ?_⟩
  simp only [Collected.relabel, Dict.mapValues_mapValues, Subst.apply_relabel]

namespace Checker

/-- **A run with other variables,** where those of the declarations and of the expected type stay. -/
theorem run_relabel (raises : Raises floor move) {checker : Checker}
    (fixed : ∀ name ty, checker.declarations.get? name = some ty → ty.relabel move = ty)
    (term : Term) {expected? : Option Ty} (expectedFixed : ∀ ty ∈ expected?, ty.relabel move = ty)
    {supply : Nat} (above : floor ≤ supply) :
    Relabeled move (Inferred.Moved move) (checker.run term expected? supply)
      (checker.run term expected? (move supply)) := by
  unfold run
  refine (@Inference.relabels _ _ raises _ fixed term (.start supply) above).bind ?_
  rintro ⟨ty, state⟩ _ ⟨rfl, aboveState⟩
  cases expected? with
  | none => exact Inference.relabeled_solve raises checker.strategy ty aboveState
  | some expected =>
    have solved := @Inference.relabeled_solve _ _ raises checker.strategy ty
      (state.require expected ty term) aboveState
    have same : (state.require expected ty term).relabel move =
        (state.relabel move).require expected (ty.relabel move) term := by
      simp only [Inference.Collected.relabel, Inference.Collected.require, List.map_cons,
        Constraint.relabel, expectedFixed expected rfl]
    rwa [same] at solved

end Checker

/-! ## Two supplies -/

/-- The variable of a run from the second supply that stands for one of a run from the first. -/
def counterpart (first second id : Nat) : Nat := if id < first then id else id - first + second

theorem counterpart_self (first second : Nat) : counterpart first second first = second := by
  simp [counterpart]

theorem raises_counterpart {first second : Nat} (order : first ≤ second) :
    Raises first (counterpart first second) := by
  constructor
  · intro earlier later below
    simp only [counterpart]
    split <;> split <;> omega
  · intro id above
    simp only [counterpart]
    split <;> split <;> omega

/-- Going to an earlier supply undoes going from there. -/
theorem counterpart_counterpart {first second : Nat} (order : second ≤ first) (id : Nat) :
    counterpart first second (counterpart second first id) = id := by
  simp only [counterpart]
  split <;> split <;> omega

/-- What was drawn before both supplies is its own counterpart. -/
theorem Ty.Below.relabel_counterpart {first second : Nat} {ty : Ty} (below : ty.Below first) :
    ty.relabel (counterpart first second) = ty :=
  relabel_of_fixed (fun id member => if_pos (below.vars id member))
    fun id member => if_pos (below.binders id member)

section Back

variable {back : Nat → Nat} (undo : ∀ id, back (move id) = id)
include undo

theorem Ty.relabel_back (ty : Ty) : (ty.relabel move).relabel back = ty := by
  rw [relabel_relabel]
  simp only [undo, relabel_self]

theorem TypeError.relabel_back (problem : TypeError) : (problem.relabel move).relabel back = problem := by
  cases problem <;> simp only [relabel, Ty.relabel_back undo, undo]

theorem Inferred.Moved.reverse {before after : Inferred} (moved : before.Moved move after) :
    after.Moved back before := by
  refine ⟨?_, ?_, ?_⟩
  · rw [moved.ty, Ty.relabel_back undo]
  · simp only [moved.solution, List.map_map, Function.comp_def, Subst.relabelEntry, undo,
      Ty.relabel_back undo, List.map_id']
  · refine Dict.ext_get? fun name => ?_
    simp only [moved.variableTypes, Dict.get?_mapValues, Option.map_map, Function.comp_def,
      Ty.relabel_back undo, Option.map_id']

theorem Relabeled.reverse {α : Type} {Related Converse : α → α → Prop}
    (converse : ∀ value value', Related value value' → Converse value' value)
    {first second : Except TypeError α} (relabeled : Relabeled move Related first second) :
    Relabeled back Converse second first := by
  cases relabeled with
  | ok related => exact .ok (converse _ _ related)
  | error problem =>
    have reversed := @Relabeled.error back _ Converse (problem.relabel move)
    rwa [TypeError.relabel_back undo] at reversed

end Back

namespace Checker

/-- Two runs have the same outcome up to the variables that they draw. -/
theorem run_counterpart {checker : Checker} {expected? : Option Ty} {first second : Nat}
    (declared : ∀ name ty, checker.declarations.get? name = some ty → ty.Below first ∧ ty.Below second)
    (expected : ∀ ty ∈ expected?, ty.Below first ∧ ty.Below second) (term : Term) :
    Relabeled (counterpart first second) (Inferred.Moved (counterpart first second))
      (checker.run term expected? first) (checker.run term expected? second) := by
  rcases Nat.le_total first second with order | order
  · have moved := run_relabel (raises_counterpart order)
      (fun name ty found => (declared name ty found).1.relabel_counterpart) term
      (fun ty member => (expected ty member).1.relabel_counterpart) (Nat.le_refl first)
    rwa [counterpart_self] at moved
  · have moved := run_relabel (raises_counterpart order)
      (fun name ty found => (declared name ty found).2.relabel_counterpart) term
      (fun ty member => (expected ty member).2.relabel_counterpart) (Nat.le_refl second)
    rw [counterpart_self] at moved
    have undo := counterpart_counterpart order
    exact moved.reverse undo fun _ _ moved => moved.reverse undo

/-- **Inference does not depend on the supply.** From two supplies that are past all variables of the
declarations and of the expected type, inference ends in the same way up to the variables that are drawn, those
from the one supply on standing for those from the other: with the same error about the same term and the same
types, or with the same type, the same solution and the same types of variables.  So does checking. -/
theorem inference_counterpart (checker : Checker) (term : Term) (expected? : Option Ty) (first second : Nat)
    (declared : ∀ name ty, checker.declarations.get? name = some ty → ty.Below first ∧ ty.Below second)
    (expected : ∀ ty ∈ expected?, ty.Below first ∧ ty.Below second) :
    Relabeled (counterpart first second) (Inferred.Moved (counterpart first second))
        (checker.run term expected? first) (checker.run term expected? second) ∧
      Relabeled (counterpart first second) (Inferred.Moved (counterpart first second))
        (checker.infer term first) (checker.infer term second) ∧
      ∀ ty ∈ expected?,
        Relabeled (counterpart first second)
          (fun before after => after = before.relabel (counterpart first second))
          (checker.check term ty first) (checker.check term ty second) := by
  refine ⟨run_counterpart declared expected term, run_counterpart declared (by simp) term, ?_⟩
  rintro ty rfl
  exact (run_counterpart declared expected term).map fun _ _ moved => moved.ty

/-- A checker that knows a name `same` of type `(-> $a $a)`, for all `$a`. -/
def sharing : Checker := Checker.declare ⟨.hindleyMilner, ∅⟩ "same" (.arrow (.var 0) (.var 0))

/-- `(same $x)` is checked against a type with a variable that was drawn before. -/
theorem inference_counterpart_sharing :
    (∀ name ty, sharing.declarations.get? name = some ty → ty.Below 1 ∧ ty.Below 5) ∧
    (∀ ty ∈ some (Ty.list (.var 0)), ty.Below 1 ∧ ty.Below 5) ∧
    Relabeled (counterpart 1 5) (Inferred.Moved (counterpart 1 5))
      (sharing.run (.apply (.atom "same") [.atom "$x"]) (some (.list (.var 0))) 1)
      (sharing.run (.apply (.atom "same") [.atom "$x"]) (some (.list (.var 0))) 5) ∧
    (sharing.infer (.apply (.atom "same") [.atom "$x"]) 1).map (·.ty) = .ok (.var 3) ∧
    (sharing.infer (.apply (.atom "same") [.atom "$x"]) 5).map (·.ty) = .ok (.var 7) := by
  have declared : ∀ name ty, sharing.declarations.get? name = some ty → ty.Below 1 ∧ ty.Below 5 := by
    intro name ty found
    simp only [sharing, declare, Dict.get?_insert] at found
    split at found
    · obtain rfl := Option.some.inj found
      decide
    · simp at found
  have expected : ∀ ty ∈ some (Ty.list (.var 0)), ty.Below 1 ∧ ty.Below 5 := by
    intro ty member
    obtain rfl := Option.mem_some_iff.1 member
    decide
  exact ⟨declared, expected, (inference_counterpart sharing _ _ 1 5 declared expected).1, rfl, rfl⟩

end Checker

end TermSpace
