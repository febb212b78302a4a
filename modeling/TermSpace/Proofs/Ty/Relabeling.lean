import Mathlib.Order.Monotone.Basic
import TermSpace.Proofs.Ty.Annotations
import TermSpace.Proofs.Ty.Scoping

/-!
# Types with other variables

Nothing that is done with types depends on what their variables are called, as long as different ones have
different names.  Where variables are drawn from a supply, the new names have to go on from the supply as the
old ones do, and where they are looked up, they have to stay in order.  Both hold of a relabeling that leaves
the variables below a floor in order and moves all others up by the same amount (`Raises`).

Relabeling commutes with drawing an instance, with reading an annotation, with looking up and binding a
variable and with applying a substitution.  Each of these has one equation here.
-/

namespace TermSpace

set_option autoImplicit false

/-- A relabeling that keeps the order of the variables, and moves those from a floor on by one amount. -/
structure Raises (floor : Nat) (move : Nat → Nat) : Prop where
  order : StrictMono move
  next : ∀ id, floor ≤ id → move (id + 1) = move id + 1

/-- Variables drawn later are moved as the first one. -/
theorem Raises.add {floor : Nat} {move : Nat → Nat} (raises : Raises floor move) {supply : Nat}
    (above : floor ≤ supply) (offset : Nat) : move (supply + offset) = move supply + offset := by
  induction offset with
  | zero => rfl
  | succ offset ih => rw [← Nat.add_assoc, raises.next _ (by omega), ih, Nat.add_assoc]

namespace Ty

/-- A type with other variables, also where quantifiers bind them. -/
def relabel (move : Nat → Nat) : Ty → Ty
  | .var id => .var (move id)
  | .base name => .base name
  | .vector length => .vector length
  | .arrow source target => .arrow (source.relabel move) (target.relabel move)
  | .either left right => .either (left.relabel move) (right.relabel move)
  | .list element => .list (element.relabel move)
  | .maybe element => .maybe (element.relabel move)
  | .quantified id body => .quantified (move id) (body.relabel move)

/-- All variables that a type mentions, bound ones included, were drawn before a supply. -/
structure Below (supply : Nat) (ty : Ty) : Prop where
  vars : ∀ id ∈ ty.vars, id < supply
  binders : ∀ id ∈ ty.binders, id < supply

instance (supply : Nat) (ty : Ty) : Decidable (ty.Below supply) :=
  decidable_of_iff ((∀ id ∈ ty.vars, id < supply) ∧ ∀ id ∈ ty.binders, id < supply)
    ⟨fun both => ⟨both.1, both.2⟩, fun below => ⟨below.vars, below.binders⟩⟩

section Relabel

variable {move : Nat → Nat}

theorem relabel_injective (apart : Function.Injective move) : Function.Injective (relabel move) := by
  intro first
  induction first with
  | var id =>
    intro second same
    cases second <;> simp only [relabel, reduceCtorEq, var.injEq] at same ⊢
    exact apart same
  | base name =>
    intro second same
    cases second <;> simp only [relabel, reduceCtorEq] at same ⊢
    exact same
  | vector length =>
    intro second same
    cases second <;> simp only [relabel, reduceCtorEq] at same ⊢
    exact same
  | arrow source target sourceIH targetIH =>
    intro second same
    cases second <;> simp only [relabel, reduceCtorEq, arrow.injEq] at same ⊢
    exact ⟨sourceIH same.1, targetIH same.2⟩
  | either left right leftIH rightIH =>
    intro second same
    cases second <;> simp only [relabel, reduceCtorEq, either.injEq] at same ⊢
    exact ⟨leftIH same.1, rightIH same.2⟩
  | list element ih =>
    intro second same
    cases second <;> simp only [relabel, reduceCtorEq, list.injEq] at same ⊢
    exact ih same
  | maybe element ih =>
    intro second same
    cases second <;> simp only [relabel, reduceCtorEq, maybe.injEq] at same ⊢
    exact ih same
  | quantified id body ih =>
    intro second same
    cases second <;> simp only [relabel, reduceCtorEq, quantified.injEq] at same ⊢
    exact ⟨apart same.1, ih same.2⟩

@[simp] theorem size_relabel (move : Nat → Nat) (ty : Ty) : (ty.relabel move).size = ty.size := by
  induction ty <;> simp_all [relabel, size]

theorem occurs_relabel (apart : Function.Injective move) (id : Nat) (ty : Ty) :
    (ty.relabel move).occurs (move id) = ty.occurs id := by
  induction ty <;> simp_all [relabel, occurs, apart.eq_iff]

theorem relabel_relabel (first second : Nat → Nat) (ty : Ty) :
    (ty.relabel first).relabel second = ty.relabel fun id => second (first id) := by
  induction ty <;> simp_all [relabel]

/-- A relabeling that leaves all variables of a type where they are changes nothing. -/
theorem relabel_of_fixed {ty : Ty} (vars : ∀ id ∈ ty.vars, move id = id)
    (binders : ∀ id ∈ ty.binders, move id = id) : ty.relabel move = ty := by
  induction ty <;> simp_all [relabel, Ty.vars, Ty.binders, or_imp, forall_and]

theorem relabel_self (ty : Ty) : (ty.relabel fun id => id) = ty :=
  relabel_of_fixed (fun _ _ => rfl) fun _ _ => rfl

theorem shift_eq_relabel (offset : Nat) (ty : Ty) : ty.shift offset = ty.relabel (offset + ·) := by
  induction ty <;> simp_all [shift, relabel]

/-- Putting types for variables. -/
theorem replace_relabel {image relabeled : Nat → Option Ty}
    (same : ∀ id, relabeled (move id) = (image id).map (relabel move)) (ty : Ty) :
    (ty.relabel move).replace relabeled = (ty.replace image).relabel move := by
  induction ty with
  | var id =>
    simp only [relabel, replace, same]
    cases image id <;> rfl
  | _ => simp_all [relabel, replace]

end Relabel

/-! ## Drawing -/

section Drawing

variable {move : Nat → Nat}

theorem rename_relabel (apart : Function.Injective move) {names relabeled : Nat → Option Nat}
    (same : ∀ id, relabeled (move id) = (names id).map move) (ty : Ty) :
    (ty.relabel move).rename relabeled = (ty.rename names).relabel move := by
  induction ty generalizing names relabeled with
  | var id =>
    simp only [relabel, rename, same]
    cases names id <;> rfl
  | quantified id body ih =>
    simp only [relabel, rename]
    rw [ih]
    intro other
    by_cases here : other = id
    · simp [here]
    · rw [if_neg here, if_neg fun moved => here (apart moved), same]
  | base name => rfl
  | vector length => rfl
  | arrow source target sourceIH targetIH => rw [relabel, rename, sourceIH same, targetIH same, rename, relabel]
  | either left right leftIH rightIH => rw [relabel, rename, leftIH same, rightIH same, rename, relabel]
  | list element ih => rw [relabel, rename, ih same, rename, relabel]
  | maybe element ih => rw [relabel, rename, ih same, rename, relabel]

theorem renameOne_relabel (apart : Function.Injective move) (id name : Nat) (ty : Ty) :
    (ty.relabel move).renameOne (move id) (move name) = (ty.renameOne id name).relabel move := by
  refine rename_relabel apart (fun other => ?_) ty
  by_cases here : other = id
  · simp [here]
  · rw [if_neg here, if_neg fun moved => here (apart moved), Option.map_none]

theorem leading_relabel (move : Nat → Nat) (ty : Ty) : (ty.relabel move).leading = ty.leading := by
  induction ty <;> simp_all [relabel, leading]

variable {floor supply : Nat} (raises : Raises floor move) (above : floor ≤ supply)
include raises above

/-- **Drawing an instance.** -/
theorem instantiate_relabel (ty : Ty) :
    (ty.relabel move).instantiate (move supply) =
      ((ty.instantiate supply).1.relabel move, move (ty.instantiate supply).2) := by
  induction ty, supply using instantiateInduction with
  | quantified id body supply ih =>
    rw [relabel, instantiate_quantified, instantiate_quantified, renameOne_relabel raises.order.injective,
      ← raises.next supply above]
    exact ih (Nat.le_succ_of_le above)
  | bare ty supply bare =>
    rw [instantiate_of_leading_eq_zero bare, instantiate_of_leading_eq_zero]
    rwa [leading_relabel]

/-- A type with its variables drawn from the supply. -/
theorem relabel_shift (ty : Ty) : (ty.shift supply).relabel move = ty.shift (move supply) := by
  simp only [shift_eq_relabel, relabel_relabel, raises.add above]

end Drawing

end Ty

/-! ## Substitutions -/

namespace Subst

/-- An entry with other variables. -/
def relabelEntry (move : Nat → Nat) (entry : Nat × Ty) : Nat × Ty := (move entry.1, entry.2.relabel move)

/-- A substitution with other variables. -/
def relabel {move : Nat → Nat} (order : StrictMono move) (subst : Subst) : Subst :=
  ⟨subst.entries.map (relabelEntry move),
    List.pairwise_map.2 (subst.ascending.imp fun below => order below)⟩

variable {move : Nat → Nat} (order : StrictMono move)
include order

theorem lookUp_relabel (id : Nat) : ∀ entries : List (Nat × Ty),
    Dict.lookUp (move id) (entries.map (relabelEntry move)) =
      (Dict.lookUp id entries).map (Ty.relabel move)
  | [] => rfl
  | entry :: rest => by
    simp only [List.map_cons, Dict.lookUp, relabelEntry, order.injective.eq_iff, lookUp_relabel id rest]
    split <;> rfl

theorem place_relabel (id : Nat) (ty : Ty) : ∀ entries : List (Nat × Ty),
    Dict.place (move id) (ty.relabel move) (entries.map (relabelEntry move)) =
      (Dict.place id ty entries).map (relabelEntry move)
  | [] => rfl
  | entry :: rest => by
    simp only [List.map_cons, Dict.place, relabelEntry, order.injective.eq_iff, order.lt_iff_lt]
    split
    · rfl
    split
    · rfl
    · rw [List.map_cons, ← place_relabel id ty rest]
      rfl

theorem get?_relabel (subst : Subst) (id : Nat) :
    (subst.relabel order).get? (move id) = (subst.get? id).map (Ty.relabel move) :=
  lookUp_relabel order id subst.entries

theorem insert_relabel (subst : Subst) (id : Nat) (ty : Ty) :
    (Dict.insert (subst.relabel order) (move id) (ty.relabel move) : Subst) =
      Subst.relabel order (Dict.insert subst id ty) := by
  simp only [Dict.insert, relabel, place_relabel order]

theorem resolve_relabel (subst : Subst) (rounds : Nat) (ty : Ty) :
    (subst.relabel order).resolve rounds (ty.relabel move) = (subst.resolve rounds ty).relabel move := by
  induction rounds generalizing ty with
  | zero => rfl
  | succ rounds ih =>
    refine Ty.replace_relabel (fun id => ?_) ty
    rw [get?_relabel, Option.map_map, Option.map_map]
    exact congrArg (Option.map · (subst.get? id)) (funext ih)

/-- **Applying a substitution.** -/
theorem apply_relabel (subst : Subst) (ty : Ty) :
    (subst.relabel order).apply (ty.relabel move) = (subst.apply ty).relabel move := by
  have size : (subst.relabel order).size = subst.size := List.length_map _
  rw [apply, size, resolve_relabel, apply]

/-- **Binding a variable.** -/
theorem bindVar?_relabel (subst : Subst) (id : Nat) (ty : Ty) :
    (subst.relabel order).bindVar? (move id) (ty.relabel move) =
      (subst.bindVar? id ty).map (Subst.relabel order) := by
  have apart := order.injective
  have same : ty.relabel move = .var (move id) ↔ ty = .var id := (Ty.relabel_injective apart).eq_iff' rfl
  simp only [bindVar?, same, Ty.occurs_relabel apart, insert_relabel order]
  split
  · rfl
  · split <;> rfl

end Subst

end TermSpace
