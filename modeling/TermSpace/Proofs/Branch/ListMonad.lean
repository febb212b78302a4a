import Mathlib.Data.List.Basic
import TermSpace.Branch

/-!
# Superpositions combine as lists do

Combining branches is combining the lists of their values, and settling what comes out of it by the rule of
size.  Where the rule is kept, the values say which branch it is, or that there is none (`Sized.ext`): nothing
is lost between the lists and the branches.  So the laws of lists hold of branches.  Binding is associative,
with no branch as the absence of values, and spreading, keeping and combining are binding with particular
functions (`combinators_listMonad`).

The rule of size is in the way at the sizes nought and one alone.  Binding a superposition of one value to the
function that makes a branch of each value gives the value by itself: the laws of the unit hold after settling,
and not before.
-/

namespace TermSpace.Branch

set_option autoImplicit false

variable {α β γ : Type}

/-- The values of an outcome.  No branch is no values. -/
def outcomes : Option (Branch α) → List α
  | none => []
  | some branch => branch.values

@[simp] theorem outcomes_some (branch : Branch α) : outcomes (some branch) = branch.values := rfl

@[simp] theorem values_value (held : α) : (value held).values = [held] := rfl

/-- **The rule of size is kept:** a superposition has two values or more. -/
def Sized : Option (Branch α) → Prop
  | some (.super held) => 2 ≤ held.length
  | _ => True

/-! ## The rule of size -/

/-- Settling loses nothing. -/
@[simp] theorem outcomes_settle (held : List α) : outcomes (settle held) = held := by
  match held with
  | [] => rfl
  | [_] => rfl
  | _ :: _ :: _ => rfl

theorem sized_settle (held : List α) : Sized (settle held) := by
  match held with
  | [] => trivial
  | [_] => trivial
  | _ :: _ :: rest => exact Nat.le_add_left 2 rest.length

/-- What keeps the rule is what its values settle to. -/
theorem Sized.settle_outcomes {outcome : Option (Branch α)} (sized : Sized outcome) :
    settle (outcomes outcome) = outcome := by
  match outcome, sized with
  | none, _ => rfl
  | some (.value _), _ => rfl
  | some (.super (_ :: _ :: _)), _ => rfl

/-- **Where the rule of size is kept, the values are everything.** -/
theorem Sized.ext {first second : Option (Branch α)} (sizedFirst : Sized first)
    (sizedSecond : Sized second) (same : outcomes first = outcomes second) : first = second := by
  rw [← sizedFirst.settle_outcomes, same, sizedSecond.settle_outcomes]

/-! ## The combinators -/

section Combinators

variable (branch : Branch α) (second : Branch β)

/-- **Binding puts the values of all outcomes in a row.** -/
@[simp] theorem outcomes_bind (next : α → Option (Branch β)) :
    outcomes (branch.bind next) = branch.values.flatMap fun value => outcomes (next value) := by
  rw [bind, outcomes_settle, List.filterMap_eq_flatMap_toList, List.flatMap_assoc]
  refine List.flatMap_congr fun value _ => ?_
  cases next value with
  | none => rfl
  | some made => exact List.flatMap_singleton values made

theorem outcomes_spread (next : α → Branch β) :
    outcomes (branch.spread next) = branch.values.flatMap fun value => (next value).values :=
  outcomes_settle _

theorem outcomes_keep (wanted : α → Bool) :
    outcomes (branch.keep wanted) = branch.values.filter wanted := outcomes_settle _

theorem outcomes_combine (join : α → β → γ) :
    outcomes (branch.combine second join) =
      branch.values.flatMap fun left => second.values.map fun right => join left right :=
  outcomes_settle _

theorem sized_bind (next : α → Option (Branch β)) : Sized (branch.bind next) := sized_settle _

theorem sized_spread (next : α → Branch β) : Sized (branch.spread next) := sized_settle _

theorem sized_keep (wanted : α → Bool) : Sized (branch.keep wanted) := sized_settle _

theorem sized_combine (join : α → β → γ) : Sized (branch.combine second join) := sized_settle _

end Combinators

/-! ## Binding an outcome -/

/-- Going on from an outcome goes on from each of its values. -/
theorem outcomes_andThen (outcome : Option (Branch β)) (later : β → Option (Branch γ)) :
    outcomes (outcome.bind fun made => made.bind later) =
      (outcomes outcome).flatMap fun value => outcomes (later value) := by
  cases outcome with
  | none => rfl
  | some made => exact outcomes_bind made later

theorem sized_andThen (outcome : Option (Branch β)) (later : β → Option (Branch γ)) :
    Sized (outcome.bind fun made => made.bind later) := by
  cases outcome with
  | none => trivial
  | some made => exact sized_bind made later

/-! ## The laws -/

section Laws

variable (branch : Branch α)

/-- **Binding is associative.** -/
theorem bind_andThen (next : α → Option (Branch β)) (later : β → Option (Branch γ)) :
    ((branch.bind next).bind fun made => made.bind later) =
      branch.bind fun value => (next value).bind fun made => made.bind later := by
  refine (sized_andThen _ _).ext (sized_bind _ _) ?_
  simp only [outcomes_andThen, outcomes_bind, List.flatMap_assoc]

/-- A value by itself is replaced by what becomes of it. -/
theorem value_bind (value : α) (next : α → Option (Branch β)) :
    (Branch.value value).bind next = settle (outcomes (next value)) := by
  refine (sized_bind _ _).ext (sized_settle _) ?_
  simp only [outcomes_bind, outcomes_settle, values_value, List.flatMap_singleton]

/-- To leave every value as it is settles the branch. -/
theorem bind_value : (branch.bind fun value => some (.value value)) = settle branch.values := by
  refine (sized_bind _ _).ext (sized_settle _) ?_
  simp only [outcomes_bind, outcomes_settle, outcomes_some, values_value, List.flatMap_singleton']

/-- Spreading is binding where nothing is lost. -/
theorem spread_eq_bind (next : α → Branch β) :
    branch.spread next = branch.bind fun value => some (next value) := by
  refine (sized_spread _ _).ext (sized_bind _ _) ?_
  simp only [outcomes_spread, outcomes_bind, outcomes_some]

/-- Keeping is binding where a value stays or goes. -/
theorem keep_eq_bind (wanted : α → Bool) :
    branch.keep wanted =
      branch.bind fun value => if wanted value then some (.value value) else none := by
  refine (sized_keep _ _).ext (sized_bind _ _) ?_
  rw [outcomes_keep, outcomes_bind, ← List.filterMap_eq_filter, List.filterMap_eq_flatMap_toList]
  refine List.flatMap_congr fun value _ => ?_
  rw [Option.guard]
  split <;> rfl

/-- Combining is binding the first branch to spreading the second. -/
theorem combine_eq_bind (second : Branch β) (join : α → β → γ) :
    branch.combine second join =
      branch.bind fun left => second.spread fun right => .value (join left right) := by
  refine (sized_combine _ _ _).ext (sized_bind _ _) ?_
  simp only [outcomes_combine, outcomes_bind, outcomes_spread, values_value, List.map_eq_flatMap]

end Laws

/-- **The combinators are the list monad up to the rule of size.** The values of a bound branch are those of the
outcomes of its values, in a row.  No combinator makes a superposition of fewer than two values.  Binding is
associative, where no branch leads to no branch.  Binding a value by itself settles the values of its outcome,
and binding to the values as they are settles those of the branch.  All other combinators are bindings. -/
theorem combinators_listMonad (branch : Branch α) (second : Branch β) (value : α)
    (next : α → Option (Branch β)) (later : β → Option (Branch γ)) (spreading : α → Branch β)
    (wanted : α → Bool) (join : α → β → γ) :
    outcomes (branch.bind next) = (branch.values.flatMap fun value => outcomes (next value)) ∧
    (Sized (branch.bind next) ∧ Sized (branch.spread spreading) ∧ Sized (branch.keep wanted) ∧
      Sized (branch.combine second join)) ∧
    ((branch.bind next).bind fun made => made.bind later) =
      (branch.bind fun value => (next value).bind fun made => made.bind later) ∧
    (Branch.value value).bind next = settle (outcomes (next value)) ∧
    (branch.bind fun value => some (.value value)) = settle branch.values ∧
    branch.spread spreading = (branch.bind fun value => some (spreading value)) ∧
    branch.keep wanted =
      (branch.bind fun value => if wanted value then some (.value value) else none) ∧
    branch.combine second join =
      branch.bind fun left => second.spread fun right => .value (join left right) :=
  ⟨outcomes_bind branch next,
    ⟨sized_bind branch next, sized_spread branch spreading, sized_keep branch wanted,
      sized_combine branch second join⟩,
    bind_andThen branch next later, value_bind value next, bind_value branch,
    spread_eq_bind branch spreading, keep_eq_bind branch wanted, combine_eq_bind branch second join⟩

/-- One value of a superposition of one survives by itself. -/
example : ((Branch.super [1]).bind fun value => some (.value (value + 1))) = some (.value 2) := rfl

end TermSpace.Branch
