import Mathlib.Data.Option.Basic
import TermSpace.Proofs.Ty.Relabeling
import TermSpace.Ty.Unification

/-!
# Solving constraints with other variables

Unification asks whether types are equal, whether a variable occurs and what it is bound to, and it draws
variables where it opens a quantifier.  With other variables it gets the same answers, so that it ends in the
same way and with the same substitution up to the relabeling (`unifyWithin_relabel`, for Hindley-Milner
unification).  Constraints are solved one after the other, and what is reported of the one that cannot hold is
the same up to the relabeling as well (`Strategy.solveFrom_relabel`).
-/

namespace TermSpace

set_option autoImplicit false

/-! ## Outcomes -/

/-- An error about other variables.  The terms that it shows stay. -/
def TypeError.relabel (move : Nat → Nat) : TypeError → TypeError
  | .mismatch expected actual origin => .mismatch (expected.relabel move) (actual.relabel move) origin
  | .occursCheck id ty => .occursCheck (move id) (ty.relabel move)
  | .annotationMismatch expected actual term => .annotationMismatch expected actual term
  | .unknownTypeName name => .unknownTypeName name
  | .malformed term => .malformed term

/-- Two outcomes up to a relabeling: two results that are related, or one error about these and those
variables. -/
inductive Relabeled (move : Nat → Nat) {α : Type} (Related : α → α → Prop) :
    (first second : Except TypeError α) → Prop where
  | ok {first second : α} (related : Related first second) :
      Relabeled move Related (.ok first) (.ok second)
  | error (problem : TypeError) : Relabeled move Related (.error problem) (.error (problem.relabel move))

/-- Outcomes up to a relabeling are gone on from in the same way. -/
theorem Relabeled.bind {move : Nat → Nat} {α β : Type} {Before : α → α → Prop} {After : β → β → Prop}
    {first second : Except TypeError α} {next next' : α → Except TypeError β}
    (relabeled : Relabeled move Before first second)
    (goesOn : ∀ value value', Before value value' → Relabeled move After (next value) (next' value')) :
    Relabeled move After (first >>= next) (second >>= next') := by
  cases relabeled with
  | ok related => exact goesOn _ _ related
  | error problem => exact .error problem

/-- A part of outcomes up to a relabeling. -/
theorem Relabeled.map {move : Nat → Nat} {α β : Type} {Before : α → α → Prop} {After : β → β → Prop}
    {first second : Except TypeError α} {part : α → β} (relabeled : Relabeled move Before first second)
    (related : ∀ value value', Before value value' → After (part value) (part value')) :
    Relabeled move After (first.map part) (second.map part) := by
  cases relabeled with
  | ok before => exact .ok (related _ _ before)
  | error problem => exact .error problem

/-- Related results are gone on from in the same way. -/
theorem rel_bind {α β : Type} {Before : α → α → Prop} {After : β → β → Prop} {first second : Option α}
    {next next' : α → Option β} (related : Option.Rel Before first second)
    (goesOn : ∀ value value', Before value value' → Option.Rel After (next value) (next' value')) :
    Option.Rel After (first.bind next) (second.bind next') := by
  cases related with
  | some related => exact goesOn _ _ related
  | none => exact .none

/-! ## Unification -/

section Unification

variable {floor : Nat} {move : Nat → Nat} (raises : Raises floor move)

/-- A substitution and the supply that is left, and the same with other variables. -/
def Subst.Moved (before after : Subst × Nat) : Prop :=
  after = (before.1.relabel raises.order, move before.2) ∧ floor ≤ before.2

/-- Binding a variable draws nothing. -/
theorem moved_bindVar? {supply : Nat} (above : floor ≤ supply) (subst : Subst) (id : Nat) (ty : Ty) :
    Option.Rel (Subst.Moved raises) ((subst.bindVar? id ty).map fun extended => (extended, supply))
      (((subst.relabel raises.order).bindVar? (move id) (ty.relabel move)).map fun extended =>
        (extended, move supply)) := by
  rw [Subst.bindVar?_relabel]
  cases subst.bindVar? id ty with
  | none => exact .none
  | some extended => exact .some ⟨rfl, above⟩

/-- Unification that nests so deep at most does the same with other variables. -/
def RelabelsAt (depth : Nat) : Prop :=
  ∀ ⦃first second : Ty⦄ ⦃subst : Subst⦄ ⦃supply : Nat⦄, floor ≤ supply →
    Option.Rel (Subst.Moved raises) (unifyWithin depth first second subst supply)
      (unifyWithin depth (first.relabel move) (second.relabel move) (subst.relabel raises.order)
        (move supply))

section Levels

variable {raises} {depth : Nat} (below : RelabelsAt raises depth)
variable {subst : Subst} {supply : Nat} (above : floor ≤ supply)
include below above

theorem moved_inTwo (source₁ source₂ target₁ target₂ : Ty) :
    Option.Rel (Subst.Moved raises)
      ((unifyWithin depth source₁ source₂ subst supply).bind fun result =>
        unifyWithin depth target₁ target₂ result.1 result.2)
      ((unifyWithin depth (source₁.relabel move) (source₂.relabel move) (subst.relabel raises.order)
          (move supply)).bind fun result =>
        unifyWithin depth (target₁.relabel move) (target₂.relabel move) result.1 result.2) := by
  refine rel_bind (below above) ?_
  rintro ⟨extended, left⟩ _ ⟨rfl, aboveNext⟩
  exact below aboveNext

theorem moved_opened (ty other : Ty) :
    Option.Rel (Subst.Moved raises)
      (unifyWithin depth (ty.instantiate supply).1 other subst (ty.instantiate supply).2)
      (unifyWithin depth ((ty.relabel move).instantiate (move supply)).1 (other.relabel move)
        (subst.relabel raises.order) ((ty.relabel move).instantiate (move supply)).2) := by
  rw [Ty.instantiate_relabel raises above]
  exact below (Nat.le_trans above (Ty.le_instantiate _ _))

end Levels

/-- **Unification with other variables,** however deep it nests. -/
theorem unifyWithin_relabel (depth : Nat) : RelabelsAt raises depth := by
  induction depth with
  | zero => exact fun _ _ _ _ _ => .none
  | succ depth below =>
    intro first second subst supply above
    have apart := raises.order.injective
    simp only [unifyWithin, Subst.apply_relabel, (Ty.relabel_injective apart).eq_iff]
    generalize subst.apply first = left
    generalize subst.apply second = right
    split
    · exact .some ⟨rfl, above⟩
    split
    · exact moved_bindVar? raises above subst _ _
    · next id notVar _ =>
      cases left with
      | var other => exact (notVar other rfl).elim
      | _ => exact moved_bindVar? raises above subst id _
    · exact moved_inTwo below above _ _ _ _
    · exact moved_inTwo below above _ _ _ _
    · exact below above
    · exact below above
    · next id body _ notVar =>
      cases right with
      | var other => exact (notVar other rfl).elim
      | _ => exact moved_opened below above (.quantified id body) _
    · next id body notVar notQuantified _ =>
      cases left with
      | var other => exact (notVar other rfl).elim
      | quantified other inner => exact (notQuantified other inner rfl).elim
      | _ => exact moved_opened below above (.quantified id body) _
    · next notVar₁ notQuantified₁ notVar₂ notQuantified₂ notArrows notEithers notLists notMaybes =>
      -- the relabeled types have no form in common either
      cases left <;> cases right <;>
        first
        | exact .none
        | exact (notVar₁ _ rfl).elim
        | exact (notVar₂ _ rfl).elim
        | exact (notQuantified₁ _ _ rfl).elim
        | exact (notQuantified₂ _ _ rfl).elim
        | exact (notArrows _ _ _ _ rfl rfl).elim
        | exact (notEithers _ _ _ _ rfl rfl).elim
        | exact (notLists _ _ rfl rfl).elim
        | exact (notMaybes _ _ rfl rfl).elim

/-! ## Strategies -/

theorem Strategy.unify_relabel (strategy : Strategy) (first second : Ty) (subst : Subst) {supply : Nat}
    (above : floor ≤ supply) :
    Option.Rel (Subst.Moved raises) (strategy.unify first second subst supply)
      (strategy.unify (first.relabel move) (second.relabel move) (subst.relabel raises.order)
        (move supply)) := by
  cases strategy with
  | hindleyMilner =>
    simp only [unify, Subst.apply_relabel, unificationDepth, Ty.size_relabel]
    exact unifyWithin_relabel raises _ above
  | simple =>
    have apart := raises.order.injective
    simp only [unify, Subst.apply_relabel, (Ty.relabel_injective apart).eq_iff]
    generalize subst.apply first = left
    generalize subst.apply second = right
    split
    · exact .some ⟨rfl, above⟩
    split
    · exact moved_bindVar? raises above subst _ _
    · next id notVar _ =>
      cases left with
      | var other => exact (notVar other rfl).elim
      | _ => exact moved_bindVar? raises above subst id _
    · next notVar₁ notVar₂ =>
      cases left <;> cases right <;>
        first
        | exact .none
        | exact (notVar₁ _ rfl).elim
        | exact (notVar₂ _ rfl).elim

/-- A constraint on other variables. -/
def Constraint.relabel (move : Nat → Nat) (wanted : Constraint) : Constraint :=
  ⟨wanted.left.relabel move, wanted.right.relabel move, wanted.origin⟩

theorem variableSide?_relabel (apart : Function.Injective move) (first second : Ty) :
    variableSide? (first.relabel move) (second.relabel move) =
      (variableSide? first second).map fun side => (move side.1, side.2.relabel move) := by
  cases first with
  | var id =>
    have same : second.relabel move = .var (move id) ↔ second = .var id :=
      (Ty.relabel_injective apart).eq_iff' rfl
    simp only [Ty.relabel, variableSide?, same]
    split <;> rfl
  | _ => cases second <;> rfl

/-- What is wrong with a constraint. -/
theorem Constraint.explain_relabel (order : StrictMono move) (wanted : Constraint) (subst : Subst) :
    (wanted.relabel move).explain (subst.relabel order) = (wanted.explain subst).relabel move := by
  have apart := order.injective
  simp only [explain, relabel, Subst.apply_relabel, variableSide?_relabel apart]
  cases variableSide? (subst.apply wanted.left) (subst.apply wanted.right) with
  | none => rfl
  | some side =>
    simp only [Option.map_some, Ty.occurs_relabel apart]
    split <;> rfl

/-- **Solving constraints** on other variables. -/
theorem Strategy.solveFrom_relabel (strategy : Strategy) {constraints : List Constraint} {subst : Subst}
    {supply : Nat} (above : floor ≤ supply) :
    Relabeled move (Subst.Moved raises) (strategy.solveFrom subst supply constraints)
      (strategy.solveFrom (subst.relabel raises.order) (move supply)
        (constraints.map (Constraint.relabel move))) := by
  induction constraints generalizing subst supply with
  | nil => exact .ok ⟨rfl, above⟩
  | cons wanted rest ih =>
    have meets := strategy.unify_relabel raises wanted.left wanted.right subst above
    simp only [List.map_cons, solveFrom, Constraint.explain_relabel]
    simp only [Constraint.relabel]
    generalize strategy.unify wanted.left wanted.right subst supply = outcome at meets ⊢
    generalize strategy.unify (wanted.left.relabel move) (wanted.right.relabel move)
      (subst.relabel raises.order) (move supply) = outcome' at meets ⊢
    cases meets with
    | some moved =>
      obtain ⟨rfl, aboveNext⟩ := moved
      exact ih aboveNext
    | none => exact .error _

end Unification

end TermSpace
