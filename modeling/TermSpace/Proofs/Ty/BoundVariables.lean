import TermSpace.Proofs.Ty.Chains

/-!
# Substitutions under quantifiers

That a quantifier binds its variable is known to the free variables of a type and to renaming, but not to the
application of a substitution, which resolves a variable wherever it stands.  Two things can go wrong.  A bound
variable that has a binding of its own is replaced, and the type that is put for a free variable may mention
one that is bound where it is put (`Subst.apply_quantified_unequal`).

What is said here holds of every type and every substitution without circles (`Subst.apply_quantified`).
Application leaves alone the types no variable of which has a binding, free or bound.  It is substitution
for the free variables if and only if no variable that occurs bound has a binding.  Then, and if nothing is
captured, what is free in the result is what is free in the types of the free variables.
-/

namespace TermSpace

set_option autoImplicit false

namespace Ty

/-! ## Where variables occur -/

/-- Whether a variable occurs bound. -/
def occursBound (id : Nat) : Ty → Bool
  | .var _ => false
  | .base _ => false
  | .vector _ => false
  | .arrow source target => source.occursBound id || target.occursBound id
  | .either left right => left.occursBound id || right.occursBound id
  | .list element => element.occursBound id
  | .maybe element => element.occursBound id
  | .quantified bound body => (bound = id && body.occurs id) || body.occursBound id

/-- Whether a variable occurs free, and inside a quantifier over another one there. -/
def occursInside (bound id : Nat) : Ty → Bool
  | .var _ => false
  | .base _ => false
  | .vector _ => false
  | .arrow source target => source.occursInside bound id || target.occursInside bound id
  | .either left right => left.occursInside bound id || right.occursInside bound id
  | .list element => element.occursInside bound id
  | .maybe element => element.occursInside bound id
  | .quantified other body => other ≠ id && ((other = bound && body.occurs id) || body.occursInside bound id)

/-- Whether a variable occurs, free or bound, outside all quantifiers over another one. -/
def occursOutside (bound id : Nat) : Ty → Bool
  | .var other => other = id
  | .base _ => false
  | .vector _ => false
  | .arrow source target => source.occursOutside bound id || target.occursOutside bound id
  | .either left right => left.occursOutside bound id || right.occursOutside bound id
  | .list element => element.occursOutside bound id
  | .maybe element => element.occursOutside bound id
  | .quantified other body => other ≠ bound && body.occursOutside bound id

section Occurrences

variable {bound id : Nat} {ty : Ty}

/-- A type mentions what occurs free or bound in it. -/
theorem mem_vars_iff : id ∈ ty.vars ↔ ty.occurs id ∨ ty.occursBound id := by
  induction ty with
  | var other => simp [vars, occurs, occursBound, eq_comm]
  | base name => simp [vars, occurs, occursBound]
  | vector length => simp [vars, occurs, occursBound]
  | arrow left right leftIH rightIH | either left right leftIH rightIH =>
    simp only [vars, occurs, occursBound, List.mem_append, Bool.or_eq_true, leftIH, rightIH]
    exact or_or_or_comm
  | list element ih | maybe element ih => exact ih
  | quantified other body ih =>
    simp only [vars, occurs, occursBound, Bool.or_eq_true, Bool.and_eq_true, decide_eq_true_eq, ih]
    tauto

theorem mem_vars_of_occursOutside (outside : ty.occursOutside bound id) : id ∈ ty.vars := by
  induction ty with
  | var other => simpa [occursOutside, vars, eq_comm] using outside
  | base name => simp [occursOutside] at outside
  | vector length => simp [occursOutside] at outside
  | arrow left right leftIH rightIH | either left right leftIH rightIH =>
    simp only [occursOutside, Bool.or_eq_true] at outside
    exact List.mem_append.2 (outside.imp leftIH rightIH)
  | list element ih | maybe element ih => exact ih outside
  | quantified other body ih =>
    simp only [occursOutside, Bool.and_eq_true] at outside
    exact ih outside.2

/-- To occur outside the quantifiers over itself is to occur free. -/
theorem occursOutside_self : ty.occursOutside id id = ty.occurs id := by
  induction ty <;> simp_all [occursOutside, occurs]

/-- A free occurrence is outside or inside the quantifiers over another variable. -/
theorem occursOutside_or_occursInside (free : ty.occurs id) :
    ty.occursOutside bound id ∨ ty.occursInside bound id := by
  induction ty with
  | var other => exact .inl free
  | base name => simp [occurs] at free
  | vector length => simp [occurs] at free
  | arrow left right leftIH rightIH | either left right leftIH rightIH =>
    simp only [occurs, occursOutside, occursInside, Bool.or_eq_true] at free ⊢
    exact free.elim (fun inside => (leftIH inside).imp .inl .inl)
      fun inside => (rightIH inside).imp .inr .inr
  | list element ih | maybe element ih => exact ih free
  | quantified other body ih =>
    simp only [occurs, occursOutside, occursInside, Bool.or_eq_true, Bool.and_eq_true,
      decide_eq_true_eq] at free ⊢
    have := ih free.2
    tauto

end Occurrences

/-! ## Under assignments -/

/-- **What is free under an assignment.** A quantifier captures what it binds, and nothing else is lost. -/
theorem occurs_under_iff {assignment : Nat → Ty} {id : Nat} {ty : Ty} :
    (ty.under assignment).occurs id ↔ ∃ other, ty.occursOutside id other ∧ (assignment other).occurs id := by
  induction ty with
  | var other => simp [occursOutside]
  | base name => simp [occurs, occursOutside]
  | vector length => simp [occurs, occursOutside]
  | arrow source target sourceIH targetIH =>
    simp only [under_arrow, occurs, occursOutside, Bool.or_eq_true, sourceIH, targetIH, or_and_right, exists_or]
  | either left right leftIH rightIH =>
    simp only [under_either, occurs, occursOutside, Bool.or_eq_true, leftIH, rightIH, or_and_right, exists_or]
  | list element ih => exact ih
  | maybe element ih => exact ih
  | quantified bound body ih =>
    simp only [under_quantified, occurs, occursOutside, Bool.and_eq_true, decide_eq_true_eq, ih, and_assoc,
      exists_and_left]

/-- An assignment is a substitution for the free variables if and only if the two agree on these, and the
assignment leaves alone what occurs bound. -/
theorem under_eq_replaceFree_iff {assignment image : Nat → Ty} {ty : Ty} :
    ty.under assignment = ty.replaceFree image ↔
      (∀ id, ty.occurs id → assignment id = image id) ∧
        ∀ id, ty.occursBound id → assignment id = .var id := by
  induction ty generalizing image with
  | var other => simp [replaceFree, occurs, occursBound]
  | base name => simp [replaceFree, occurs, occursBound]
  | vector length => simp [replaceFree, occurs, occursBound]
  | arrow source target sourceIH targetIH =>
    simp only [under_arrow, replaceFree, arrow.injEq, sourceIH, targetIH, occurs, occursBound, Bool.or_eq_true,
      or_imp, forall_and]
    exact and_and_and_comm
  | either left right leftIH rightIH =>
    simp only [under_either, replaceFree, either.injEq, leftIH, rightIH, occurs, occursBound, Bool.or_eq_true,
      or_imp, forall_and]
    exact and_and_and_comm
  | list element ih => simpa only [under_list, replaceFree, list.injEq, occurs, occursBound] using ih
  | maybe element ih => simpa only [under_maybe, replaceFree, maybe.injEq, occurs, occursBound] using ih
  | quantified bound body ih =>
    simp only [under_quantified, replaceFree, quantified.injEq, true_and, ih, occurs, occursBound,
      Bool.or_eq_true, Bool.and_eq_true, decide_eq_true_eq]
    -- the variable of the quantifier goes from the free occurrences in the body to the bound ones
    constructor
    · rintro ⟨atFree, atBound⟩
      refine ⟨fun id free => ?_, fun id here => ?_⟩
      · rw [atFree id free.2, Function.update_of_ne (Ne.symm free.1)]
      · rcases here with ⟨rfl, free⟩ | here
        · rw [atFree _ free, Function.update_self]
        · exact atBound id here
    · rintro ⟨atFree, atBound⟩
      refine ⟨fun id free => ?_, fun id here => atBound id (.inr here)⟩
      by_cases same : bound = id
      · subst same
        rw [atBound _ (.inl ⟨rfl, free⟩), Function.update_self]
      · rw [atFree id ⟨same, free⟩, Function.update_of_ne (Ne.symm same)]

end Ty

/-! ## Application -/

namespace Subst

section Acyclic

variable {subst : Subst} (acyclic : subst.Acyclic)

include acyclic

theorem Acyclic.image_eq_var_iff {id : Nat} : subst.image id = .var id ↔ subst.get? id = none := by
  constructor
  · intro same
    refine acyclic.unbound_of_mem_vars (show id ∈ (subst.apply (.var id)).vars from ?_)
    rw [show subst.apply (.var id) = .var id from same]
    simp [Ty.vars]
  · exact image_of_free

/-- Application leaves a type alone if and only if it mentions no bound variable, whatever its quantifiers. -/
theorem Acyclic.apply_eq_self_iff {ty : Ty} :
    subst.apply ty = ty ↔ ∀ id ∈ ty.vars, subst.get? id = none := by
  constructor
  · intro same id member
    exact acyclic.unbound_of_mem_vars (same.symm ▸ member)
  · exact apply_eq_self

/-- **When application respects quantifiers.** -/
theorem Acyclic.apply_eq_replaceFree_iff {ty : Ty} :
    subst.apply ty = ty.replaceFree subst.image ↔ ∀ id, ty.occursBound id → subst.get? id = none := by
  rw [apply_eq_under, Ty.under_eq_replaceFree_iff]
  simp only [acyclic.image_eq_var_iff, implies_true, true_and]

end Acyclic

/-- Where quantifiers are respected and capture nothing, what is free comes from the free variables. -/
theorem occurs_apply_iff {subst : Subst} {ty : Ty}
    (respected : ∀ id, ty.occursBound id → subst.get? id = none)
    (uncaptured : ∀ bound other, ty.occursInside bound other → ¬ (subst.image other).occurs bound)
    (id : Nat) : (subst.apply ty).occurs id ↔ ∃ other, ty.occurs other ∧ (subst.image other).occurs id := by
  rw [apply_eq_under, Ty.occurs_under_iff]
  refine exists_congr fun other => and_congr_left fun inside => ⟨fun outside => ?_, fun free => ?_⟩
  · rcases Ty.mem_vars_iff.1 (Ty.mem_vars_of_occursOutside outside) with free | bound
    · exact free
    -- what occurs bound is left alone, so it can only be free if it has a free occurrence
    · rw [image_of_free (respected other bound)] at inside
      simp only [Ty.occurs, decide_eq_true_eq] at inside
      subst inside
      rwa [Ty.occursOutside_self] at outside
  · exact (Ty.occursOutside_or_occursInside free).resolve_right fun captured =>
      uncaptured id other captured inside

/-- **Application and quantifiers.** A substitution without circles leaves a type alone if and only if no
variable that the type mentions, free or bound, has a binding; so a type no free variable of which has one is
left alone if and only if none of those that occur bound has one.  What is free in the result is what is free
in the type of a variable that occurs, free or bound, outside the quantifiers over it.

Application is substitution for the free variables if and only if no variable that occurs bound has a binding.
In that case, and if no free variable of a type that is put somewhere is bound there, the free variables of
the result are those of the types of the free variables. -/
theorem apply_quantified {subst : Subst} (noCircle : subst.NoCircle) (ty : Ty) :
    (subst.apply ty = ty ↔ ∀ id ∈ ty.vars, subst.get? id = none) ∧
    ((∀ id ∈ ty.freeVars, subst.get? id = none) →
      (subst.apply ty = ty ↔ ∀ id, ty.occursBound id → subst.get? id = none)) ∧
    (∀ id, id ∈ (subst.apply ty).freeVars ↔
      ∃ other, ty.occursOutside id other ∧ id ∈ (subst.image other).freeVars) ∧
    (subst.apply ty = ty.replaceFree subst.image ↔ ∀ id, ty.occursBound id → subst.get? id = none) ∧
    ((∀ id, ty.occursBound id → subst.get? id = none) →
      (∀ bound other, ty.occursInside bound other → bound ∉ (subst.image other).freeVars) →
        ∀ id, id ∈ (subst.apply ty).freeVars ↔ ∃ other ∈ ty.freeVars, id ∈ (subst.image other).freeVars) := by
  have acyclic := noCircle.acyclic
  simp only [Ty.mem_freeVars_iff_occurs]
  refine ⟨acyclic.apply_eq_self_iff, fun free => ?_, fun id => ?_, acyclic.apply_eq_replaceFree_iff,
    occurs_apply_iff⟩
  · rw [acyclic.apply_eq_self_iff]
    simp only [Ty.mem_vars_iff, or_imp, forall_and, and_iff_right free]
  · rw [apply_eq_under, Ty.occurs_under_iff]

/-- Functions from some type to functions from any type to it. -/
def constantly : Ty := .arrow (.var 1) (.quantified 2 (.arrow (.var 2) (.var 1)))

/-- A type goes under a quantifier that binds none of its variables, and the bound variable stays. -/
theorem apply_quantified_constantly :
    let subst : Subst := Dict.insert ∅ 1 (.list (.var 3))
    subst.NoCircle ∧ (∀ id, constantly.occursBound id → subst.get? id = none) ∧
    (∀ bound other, constantly.occursInside bound other → bound ∉ (subst.image other).freeVars) ∧
    subst.apply constantly = constantly.replaceFree subst.image ∧
    ∀ id, id ∈ (subst.apply constantly).freeVars ↔
      ∃ other ∈ constantly.freeVars, id ∈ (subst.image other).freeVars := by
  intro subst
  have noCircle : subst.NoCircle := (acyclic_empty.insert rfl (by simp) (by decide)).noCircle
  have respected : ∀ id, constantly.occursBound id → subst.get? id = none := by
    intro id bound
    have same : 2 = id ∧ (2 = id ∨ 1 = id) := by
      simpa [constantly, Ty.occursBound, Ty.occurs] using bound
    exact same.1 ▸ rfl
  have uncaptured : ∀ bound other, constantly.occursInside bound other →
      bound ∉ (subst.image other).freeVars := by
    intro bound other inside
    have same : 2 = bound ∧ 1 = other := by
      simp [constantly, Ty.occursInside, Ty.occurs] at inside
      omega
    obtain ⟨rfl, rfl⟩ := same
    decide
  obtain ⟨-, -, -, replaces, free⟩ := apply_quantified noCircle constantly
  exact ⟨noCircle, respected, uncaptured, replaces.2 respected, free respected uncaptured⟩

/-- **Application does not respect quantifiers.** A type without free variables does not stay the same where its
bound variable has a binding.  And a free variable of the type that is put for a free variable gets lost where
a quantifier binds it. -/
theorem apply_quantified_unequal :
    (∃ subst : Subst, ∃ ty : Ty, subst.NoCircle ∧ (∀ id ∈ ty.freeVars, subst.get? id = none) ∧
      subst.apply ty ≠ ty) ∧
    ∃ subst : Subst, ∃ ty : Ty, subst.NoCircle ∧ (∃ other ∈ ty.freeVars, 1 ∈ (subst.image other).freeVars) ∧
      1 ∉ (subst.apply ty).freeVars := by
  constructor
  · refine ⟨Dict.insert ∅ 1 .number, .quantified 1 (.var 1), ?_, ?_, ?_⟩
    · exact (acyclic_empty.insert rfl (by simp [Ty.number, Ty.vars]) (by decide)).noCircle
    · decide
    · decide
  · refine ⟨Dict.insert ∅ 2 (.var 1), .quantified 1 (.var 2), ?_, ⟨2, by decide, by decide⟩, by decide⟩
    exact (acyclic_empty.insert rfl (by simp) (by decide)).noCircle

end Subst

end TermSpace
