import Mathlib.Data.List.Basic
import TermSpace.Ty.Subst

/-!
# Types under assignments

An assignment gives a type to every variable.  The type under an assignment has these types in place of
its variables, and depends on those of the variables that it mentions only (`under_congr`).

Assignments are the substitutions of the theory: total, simultaneous, and without anything to be resolved.
A variable cannot be assigned the same type as a larger type that mentions it (`under_ne_of_mem_vars`),
which is what an occurs check relies on.

All variables count here, wherever they stand.  In a type without quantifiers these are the free ones.
-/

namespace TermSpace.Ty

set_option autoImplicit false

/-- The variables of a type from left to right. -/
def vars : Ty → List Nat
  | .var id => [id]
  | .base _ => []
  | .vector _ => []
  | .arrow source target => source.vars ++ target.vars
  | .either left right => left.vars ++ right.vars
  | .list element => element.vars
  | .maybe element => element.vars
  | .quantified _ body => body.vars

/-- Whether there is no quantifier in a type. -/
def quantifierFree : Ty → Bool
  | .var _ => true
  | .base _ => true
  | .vector _ => true
  | .arrow source target => source.quantifierFree && target.quantifierFree
  | .either left right => left.quantifierFree && right.quantifierFree
  | .list element => element.quantifierFree
  | .maybe element => element.quantifierFree
  | .quantified _ _ => false

theorem quantifierFree_arrow {source target : Ty} :
    (arrow source target).quantifierFree ↔ source.quantifierFree ∧ target.quantifierFree := by
  rw [quantifierFree, Bool.and_eq_true]

theorem quantifierFree_either {left right : Ty} :
    (either left right).quantifierFree ↔ left.quantifierFree ∧ right.quantifierFree := by
  rw [quantifierFree, Bool.and_eq_true]

/-- **Induction on types without quantifiers.** -/
@[elab_as_elim]
theorem freeInduction {motive : (ty : Ty) → ty.quantifierFree → Prop}
    (var : ∀ id, motive (.var id) rfl) (base : ∀ name, motive (.base name) rfl)
    (vector : ∀ length, motive (.vector length) rfl)
    (arrow : ∀ source target freeSource freeTarget, motive source freeSource → motive target freeTarget →
      motive (.arrow source target) (quantifierFree_arrow.2 ⟨freeSource, freeTarget⟩))
    (either : ∀ left right freeLeft freeRight, motive left freeLeft → motive right freeRight →
      motive (.either left right) (quantifierFree_either.2 ⟨freeLeft, freeRight⟩))
    (list : ∀ element free, motive element free → motive (.list element) free)
    (maybe : ∀ element free, motive element free → motive (.maybe element) free)
    (ty : Ty) (free : ty.quantifierFree) : motive ty free := by
  induction ty with
  | var id => exact var id
  | base name => exact base name
  | vector length => exact vector length
  | arrow source target sourceIH targetIH =>
    have both := quantifierFree_arrow.1 free
    exact arrow source target both.1 both.2 (sourceIH both.1) (targetIH both.2)
  | either left right leftIH rightIH =>
    have both := quantifierFree_either.1 free
    exact either left right both.1 both.2 (leftIH both.1) (rightIH both.2)
  | list element ih => exact list element free (ih free)
  | maybe element ih => exact maybe element free (ih free)
  | quantified bound body ih => simp [quantifierFree] at free

theorem occurs_iff_mem_vars {id : Nat} {ty : Ty} (free : ty.quantifierFree) :
    ty.occurs id ↔ id ∈ ty.vars := by
  induction ty, free using freeInduction with
  | var other => simp [occurs, vars, eq_comm]
  | base name => simp [occurs, vars]
  | vector length => simp [occurs, vars]
  | arrow source target _ _ sourceIH targetIH => simp [occurs, vars, sourceIH, targetIH]
  | either left right _ _ leftIH rightIH => simp [occurs, vars, leftIH, rightIH]
  | list element _ ih => exact ih
  | maybe element _ ih => exact ih

/-- A type with the assigned types in place of its variables. -/
def under (assignment : Nat → Ty) (ty : Ty) : Ty := ty.replace fun id => some (assignment id)

section Under

variable (assignment : Nat → Ty)

@[simp] theorem under_var (id : Nat) : (var id).under assignment = assignment id := rfl

@[simp] theorem under_base (name : String) : (base name).under assignment = .base name := rfl

@[simp] theorem under_vector (length : Nat) : (vector length).under assignment = .vector length := rfl

@[simp] theorem under_arrow (source target : Ty) :
    (arrow source target).under assignment =
      .arrow (source.under assignment) (target.under assignment) := rfl

@[simp] theorem under_either (left right : Ty) :
    (either left right).under assignment =
      .either (left.under assignment) (right.under assignment) := rfl

@[simp] theorem under_list (element : Ty) :
    (list element).under assignment = .list (element.under assignment) := rfl

@[simp] theorem under_maybe (element : Ty) :
    (maybe element).under assignment = .maybe (element.under assignment) := rfl

@[simp] theorem under_quantified (id : Nat) (body : Ty) :
    (quantified id body).under assignment = .quantified id (body.under assignment) := rfl

end Under

theorem under_congr {first second : Nat → Ty} {ty : Ty}
    (agree : ∀ id ∈ ty.vars, first id = second id) : ty.under first = ty.under second := by
  induction ty with
  | var id => exact agree id (by simp [vars])
  | base name => rfl
  | vector length => rfl
  | arrow source target sourceIH targetIH =>
    rw [under_arrow, under_arrow, sourceIH fun id member => agree id (by simp [vars, member]),
      targetIH fun id member => agree id (by simp [vars, member])]
  | either left right leftIH rightIH =>
    rw [under_either, under_either, leftIH fun id member => agree id (by simp [vars, member]),
      rightIH fun id member => agree id (by simp [vars, member])]
  | list element ih => rw [under_list, under_list, ih agree]
  | maybe element ih => rw [under_maybe, under_maybe, ih agree]
  | quantified id body ih => rw [under_quantified, under_quantified, ih agree]

theorem under_self (ty : Ty) : ty.under .var = ty := by
  induction ty <;> simp_all

/-- An assignment that leaves the variables of a type alone leaves the type alone. -/
theorem under_eq_self {assignment : Nat → Ty} {ty : Ty}
    (fixed : ∀ id ∈ ty.vars, assignment id = .var id) : ty.under assignment = ty :=
  (under_congr fixed).trans (under_self ty)

/-- **Composition.** -/
theorem under_under (first second : Nat → Ty) (ty : Ty) :
    (ty.under first).under second = ty.under fun id => (first id).under second := by
  induction ty <;> simp_all

/-- The variables of a type under an assignment are those of the assigned types. -/
theorem mem_vars_under {assignment : Nat → Ty} {id : Nat} {ty : Ty} :
    id ∈ (ty.under assignment).vars ↔ ∃ other ∈ ty.vars, id ∈ (assignment other).vars := by
  induction ty with
  | var other => simp [vars]
  | base name => simp [vars]
  | vector length => simp [vars]
  | arrow source target sourceIH targetIH =>
    simp only [under_arrow, vars, List.mem_append, sourceIH, targetIH, or_and_right, exists_or]
  | either left right leftIH rightIH =>
    simp only [under_either, vars, List.mem_append, leftIH, rightIH, or_and_right, exists_or]
  | list element ih => exact ih
  | maybe element ih => exact ih
  | quantified bound body ih => exact ih

theorem quantifierFree_under {assignment : Nat → Ty} {ty : Ty} (free : ty.quantifierFree)
    (assigned : ∀ id ∈ ty.vars, (assignment id).quantifierFree) :
    (ty.under assignment).quantifierFree := by
  induction ty, free using freeInduction with
  | var id => exact assigned id (by simp [vars])
  | base name => rfl
  | vector length => rfl
  | arrow source target _ _ sourceIH targetIH =>
    rw [under_arrow, quantifierFree_arrow]
    exact ⟨sourceIH fun id member => assigned id (by simp [vars, member]),
      targetIH fun id member => assigned id (by simp [vars, member])⟩
  | either left right _ _ leftIH rightIH =>
    rw [under_either, quantifierFree_either]
    exact ⟨leftIH fun id member => assigned id (by simp [vars, member]),
      rightIH fun id member => assigned id (by simp [vars, member])⟩
  | list element _ ih => exact ih assigned
  | maybe element _ ih => exact ih assigned

/-! ## Sizes -/

theorem size_le_of_mem_vars {assignment : Nat → Ty} {id : Nat} {ty : Ty} (member : id ∈ ty.vars) :
    (assignment id).size ≤ (ty.under assignment).size := by
  induction ty with
  | var other =>
    simp only [vars, List.mem_singleton] at member
    subst member
    exact Nat.le_refl _
  | base name => simp [vars] at member
  | vector length => simp [vars] at member
  | arrow source target sourceIH targetIH =>
    simp only [under_arrow, size]
    rcases List.mem_append.1 member with inside | inside
    · have := sourceIH inside
      omega
    · have := targetIH inside
      omega
  | either left right leftIH rightIH =>
    simp only [under_either, size]
    rcases List.mem_append.1 member with inside | inside
    · have := leftIH inside
      omega
    · have := rightIH inside
      omega
  | list element ih => exact Nat.le_succ_of_le (ih member)
  | maybe element ih => exact Nat.le_succ_of_le (ih member)
  | quantified bound body ih => exact Nat.le_succ_of_le (ih member)

/-- **No assignment solves an equation that fails the occurs check.** -/
theorem under_ne_of_mem_vars {id : Nat} {ty : Ty} (member : id ∈ ty.vars) (apart : ty ≠ .var id)
    (assignment : Nat → Ty) : assignment id ≠ ty.under assignment := by
  intro same
  have larger : (assignment id).size < (ty.under assignment).size := by
    cases ty with
    | var other =>
      simp only [vars, List.mem_singleton] at member
      exact absurd (by rw [member]) apart
    | base name => simp [vars] at member
    | vector length => simp [vars] at member
    | arrow source target =>
      simp only [under_arrow, size]
      rcases List.mem_append.1 member with inside | inside
      · have := @size_le_of_mem_vars assignment id _ inside
        omega
      · have := @size_le_of_mem_vars assignment id _ inside
        omega
    | either left right =>
      simp only [under_either, size]
      rcases List.mem_append.1 member with inside | inside
      · have := @size_le_of_mem_vars assignment id _ inside
        omega
      · have := @size_le_of_mem_vars assignment id _ inside
        omega
    | list element => exact Nat.lt_succ_of_le (size_le_of_mem_vars member)
    | maybe element => exact Nat.lt_succ_of_le (size_le_of_mem_vars member)
    | quantified bound body => exact Nat.lt_succ_of_le (size_le_of_mem_vars member)
  rw [same] at larger
  exact Nat.lt_irrefl _ larger

end TermSpace.Ty
