import TermSpace.Proofs.Ty.Instantiation
import TermSpace.Proofs.Ty.UnificationRun

/-!
# Free and bound variables

Substitutions put types for variables wherever they stand, also for those that a quantifier binds.  This does
no harm where the variables that quantifiers bind are kept apart from all others: `reserved` is a set of
variables for them, and a type is `Scoped` if it binds nothing else and leaves none of them free.

For such types an assignment that `Keeps` the reserved variables is a substitution for the free variables
(`under_eq_replaceFree`).  Stripping the leading quantifiers keeps types in scope, and what it makes free is
drawn from the supply (`Scoped.instantiate`).
-/

namespace TermSpace

set_option autoImplicit false

namespace Ty

theorem mem_vars_of_occurs {id : Nat} {ty : Ty} (inside : ty.occurs id) : id ∈ ty.vars := by
  induction ty with
  | var other => simpa [occurs, vars, eq_comm] using inside
  | base name => simp [occurs] at inside
  | vector length => simp [occurs] at inside
  | arrow left right leftIH rightIH | either left right leftIH rightIH =>
    simp only [occurs, Bool.or_eq_true] at inside
    exact List.mem_append.2 (inside.imp leftIH rightIH)
  | list element ih | maybe element ih => exact ih inside
  | quantified bound body ih =>
    simp only [occurs, Bool.and_eq_true] at inside
    exact ih inside.2

/-- A variable that a type mentions is free in it or bound by a quantifier. -/
theorem occurs_or_mem_binders {id : Nat} {ty : Ty} (member : id ∈ ty.vars) :
    ty.occurs id ∨ id ∈ ty.binders := by
  induction ty with
  | var other => simpa [occurs, vars, binders, eq_comm] using member
  | base name => simp [vars] at member
  | vector length => simp [vars] at member
  | arrow left right leftIH rightIH | either left right leftIH rightIH =>
    simp only [occurs, binders, Bool.or_eq_true, List.mem_append]
    exact (List.mem_append.1 member).elim (fun inside => (leftIH inside).imp .inl .inl)
      fun inside => (rightIH inside).imp .inr .inr
  | list element ih | maybe element ih => exact ih member
  | quantified bound body ih =>
    simp only [occurs, binders, Bool.and_eq_true, decide_eq_true_eq, List.mem_cons]
    have := ih member
    tauto

/-- The free occurrences inside quantifiers are those of other variables than the bound ones. -/
theorem mem_freeOccurrences {id : Nat} {bound : List Nat} {ty : Ty} :
    id ∈ ty.freeOccurrences bound ↔ ty.occurs id ∧ id ∉ bound := by
  induction ty generalizing bound with
  | var other =>
    by_cases inside : other ∈ bound
    · simp only [freeOccurrences, if_pos inside, List.not_mem_nil, occurs, decide_eq_true_eq, false_iff]
      rintro ⟨rfl, outside⟩
      exact outside inside
    · simp only [freeOccurrences, if_neg inside, List.mem_singleton, occurs, decide_eq_true_eq]
      constructor
      · rintro rfl
        exact ⟨rfl, inside⟩
      · rintro ⟨rfl, -⟩
        rfl
  | base name => simp [freeOccurrences, occurs]
  | vector length => simp [freeOccurrences, occurs]
  | arrow source target sourceIH targetIH =>
    simp only [freeOccurrences, List.mem_append, sourceIH, targetIH, occurs, Bool.or_eq_true, or_and_right]
  | either left right leftIH rightIH =>
    simp only [freeOccurrences, List.mem_append, leftIH, rightIH, occurs, Bool.or_eq_true, or_and_right]
  | list element ih => exact ih
  | maybe element ih => exact ih
  | quantified other body ih =>
    simp only [freeOccurrences, ih, occurs, Bool.and_eq_true, decide_eq_true_eq, List.mem_cons, not_or]
    tauto

theorem mem_freeVars_iff_occurs {id : Nat} {ty : Ty} : id ∈ ty.freeVars ↔ ty.occurs id := by
  rw [freeVars, List.mem_eraseDups, mem_freeOccurrences]
  simp

/-! ## Under assignments -/

/-- What is free under an assignment comes from a free variable, unless a quantifier is in the way of it. -/
theorem occurs_under {assignment : Nat → Ty} {id : Nat} {ty : Ty}
    (fixed : ∀ bound ∈ ty.binders, assignment bound = .var bound)
    (inside : (ty.under assignment).occurs id) :
    ∃ other, ty.occurs other ∧ (assignment other).occurs id := by
  induction ty with
  | var other => exact ⟨other, by simp [occurs], inside⟩
  | base name => simp [occurs] at inside
  | vector length => simp [occurs] at inside
  | arrow source target sourceIH targetIH =>
    simp only [binders, List.mem_append] at fixed
    simp only [under_arrow, occurs, Bool.or_eq_true] at inside ⊢
    rcases inside with inside | inside
    · obtain ⟨other, free, within⟩ := sourceIH (fun bound member => fixed bound (.inl member)) inside
      exact ⟨other, .inl free, within⟩
    · obtain ⟨other, free, within⟩ := targetIH (fun bound member => fixed bound (.inr member)) inside
      exact ⟨other, .inr free, within⟩
  | either left right leftIH rightIH =>
    simp only [binders, List.mem_append] at fixed
    simp only [under_either, occurs, Bool.or_eq_true] at inside ⊢
    rcases inside with inside | inside
    · obtain ⟨other, free, within⟩ := leftIH (fun bound member => fixed bound (.inl member)) inside
      exact ⟨other, .inl free, within⟩
    · obtain ⟨other, free, within⟩ := rightIH (fun bound member => fixed bound (.inr member)) inside
      exact ⟨other, .inr free, within⟩
  | list element ih => exact ih fixed inside
  | maybe element ih => exact ih fixed inside
  | quantified bound body ih =>
    simp only [binders, List.mem_cons, forall_eq_or_imp] at fixed
    simp only [under_quantified, occurs, Bool.and_eq_true, decide_eq_true_eq] at inside ⊢
    obtain ⟨other, free, within⟩ := ih fixed.2 inside.2
    refine ⟨other, ⟨?_, free⟩, within⟩
    rintro rfl
    rw [fixed.1] at within
    simp only [occurs, decide_eq_true_eq] at within
    exact inside.1 within

/-- The quantifiers of a type under an assignment are its own and those of the assigned types. -/
theorem mem_binders_under {assignment : Nat → Ty} {id : Nat} {ty : Ty} :
    id ∈ (ty.under assignment).binders ↔
      id ∈ ty.binders ∨ ∃ other ∈ ty.vars, id ∈ (assignment other).binders := by
  induction ty with
  | var other => simp [vars, binders]
  | base name => simp [vars, binders]
  | vector length => simp [vars, binders]
  | arrow source target sourceIH targetIH =>
    simp only [under_arrow, vars, binders, List.mem_append, sourceIH, targetIH, or_and_right, exists_or]
    exact or_or_or_comm
  | either left right leftIH rightIH =>
    simp only [under_either, vars, binders, List.mem_append, leftIH, rightIH, or_and_right, exists_or]
    exact or_or_or_comm
  | list element ih => exact ih
  | maybe element ih => exact ih
  | quantified bound body ih => simp only [under_quantified, vars, binders, List.mem_cons, ih, or_assoc]

/-! ## Substitution for free variables -/

/-- Put types for free variables. -/
def replaceFree (image : Nat → Ty) : Ty → Ty
  | .var id => image id
  | .base name => .base name
  | .vector length => .vector length
  | .arrow source target => .arrow (source.replaceFree image) (target.replaceFree image)
  | .either left right => .either (left.replaceFree image) (right.replaceFree image)
  | .list element => .list (element.replaceFree image)
  | .maybe element => .maybe (element.replaceFree image)
  | .quantified id body => .quantified id (body.replaceFree (Function.update image id (.var id)))

theorem replaceFree_var (ty : Ty) : ty.replaceFree .var = ty := by
  induction ty <;> simp_all [replaceFree]

theorem rename_eq_replaceFree (names : Nat → Option Nat) (ty : Ty) :
    ty.rename names = ty.replaceFree fun id => .var ((names id).getD id) := by
  induction ty generalizing names with
  | var id => rfl
  | base name => rfl
  | vector length => rfl
  | arrow source target sourceIH targetIH => rw [rename, replaceFree, sourceIH, targetIH]
  | either left right leftIH rightIH => rw [rename, replaceFree, leftIH, rightIH]
  | list element ih => rw [rename, replaceFree, ih]
  | maybe element ih => rw [rename, replaceFree, ih]
  | quantified id body ih =>
    rw [rename, replaceFree, ih]
    congr 2
    funext other
    by_cases here : other = id
    · simp [here]
    · simp [here]

/-- An assignment that leaves bound variables alone goes through a substitution for the free ones. -/
theorem under_replaceFree {image assignment : Nat → Ty} {ty : Ty}
    (fixed : ∀ bound ∈ ty.binders, assignment bound = .var bound) :
    (ty.replaceFree image).under assignment =
      ty.replaceFree fun id => (image id).under assignment := by
  induction ty generalizing image with
  | var id => rfl
  | base name => rfl
  | vector length => rfl
  | arrow source target sourceIH targetIH =>
    rw [replaceFree, under_arrow, sourceIH fun bound member => fixed bound (List.mem_append_left _ member),
      targetIH fun bound member => fixed bound (List.mem_append_right _ member), replaceFree]
  | either left right leftIH rightIH =>
    rw [replaceFree, under_either, leftIH fun bound member => fixed bound (List.mem_append_left _ member),
      rightIH fun bound member => fixed bound (List.mem_append_right _ member), replaceFree]
  | list element ih => rw [replaceFree, under_list, ih fixed, replaceFree]
  | maybe element ih => rw [replaceFree, under_maybe, ih fixed, replaceFree]
  | quantified id body ih =>
    rw [replaceFree, under_quantified, ih fun bound member => fixed bound (List.mem_cons_of_mem _ member),
      replaceFree]
    congr 2
    funext other
    by_cases here : other = id
    · subst here
      rw [Function.update_self, Function.update_self, under_var, fixed other List.mem_cons_self]
    · rw [Function.update_of_ne here, Function.update_of_ne here]

theorem under_eq_replaceFree {assignment : Nat → Ty} {ty : Ty}
    (fixed : ∀ bound ∈ ty.binders, assignment bound = .var bound) :
    ty.under assignment = ty.replaceFree assignment := by
  have through := @under_replaceFree .var assignment ty fixed
  rwa [replaceFree_var] at through

theorem replaceFree_update_of_not_occurs {id : Nat} {ty : Ty} (absent : ¬ ty.occurs id) (value : Ty) :
    ty.replaceFree (Function.update .var id value) = ty := by
  induction ty with
  | var other =>
    simp only [occurs, decide_eq_true_eq] at absent
    rw [replaceFree, Function.update_of_ne absent]
  | base name => rfl
  | vector length => rfl
  | arrow left right leftIH rightIH | either left right leftIH rightIH =>
    simp only [occurs, Bool.or_eq_true, not_or] at absent
    rw [replaceFree, leftIH absent.1, rightIH absent.2]
  | list element ih | maybe element ih => rw [replaceFree, ih absent]
  | quantified bound body ih =>
    rw [replaceFree]
    by_cases here : bound = id
    · subst here
      rw [Function.update_idem, Function.update_eq_self, replaceFree_var]
    · simp only [occurs, Bool.and_eq_true, decide_eq_true_eq, not_and] at absent
      rw [Function.update_comm (Ne.symm here), Function.update_eq_self, ih (absent here)]

/-- A variable that was left alone may be replaced afterwards, if nothing else mentions it by then. -/
theorem replaceFree_replaceFree_update {image : Nat → Ty} {id : Nat}
    (absent : ∀ other, other ≠ id → ¬ (image other).occurs id) (value ty : Ty) :
    (ty.replaceFree (Function.update image id (.var id))).replaceFree (Function.update .var id value) =
      ty.replaceFree (Function.update image id value) := by
  induction ty generalizing image with
  | var other =>
    by_cases here : other = id
    · subst here
      simp [replaceFree]
    · simp only [replaceFree, Function.update_of_ne here]
      exact replaceFree_update_of_not_occurs (absent other here) value
  | base name => rfl
  | vector length => rfl
  | arrow source target sourceIH targetIH => simp only [replaceFree, sourceIH absent, targetIH absent]
  | either left right leftIH rightIH => simp only [replaceFree, leftIH absent, rightIH absent]
  | list element ih => simp only [replaceFree, ih absent]
  | maybe element ih => simp only [replaceFree, ih absent]
  | quantified bound body ih =>
    by_cases here : bound = id
    · subst here
      simp only [replaceFree, Function.update_idem, Function.update_eq_self, replaceFree_var]
    · simp only [replaceFree]
      rw [Function.update_comm (Ne.symm here), Function.update_comm (Ne.symm here),
        Function.update_comm (Ne.symm here), Function.update_eq_self, ih]
      intro other apart
      by_cases inner : other = bound
      · subst inner
        simpa [occurs] using here
      · rw [Function.update_of_ne inner]
        exact absent other apart

theorem mem_binders_replaceFree {image : Nat → Ty} {id : Nat} {ty : Ty}
    (member : id ∈ (ty.replaceFree image).binders) :
    id ∈ ty.binders ∨ ∃ other, id ∈ (image other).binders := by
  induction ty generalizing image with
  | var other => exact .inr ⟨other, member⟩
  | base name => simp [replaceFree, binders] at member
  | vector length => simp [replaceFree, binders] at member
  | arrow left right leftIH rightIH | either left right leftIH rightIH =>
    simp only [replaceFree, binders, List.mem_append] at member ⊢
    exact member.elim (fun inside => (leftIH inside).imp_left .inl)
      fun inside => (rightIH inside).imp_left .inr
  | list element ih | maybe element ih => exact ih member
  | quantified bound body ih =>
    simp only [replaceFree, binders, List.mem_cons] at member ⊢
    rcases member with here | inside
    · exact .inl (.inl here)
    · refine (ih inside).imp .inr ?_
      rintro ⟨other, within⟩
      by_cases here : other = bound
      · subst here
        simp [binders] at within
      · exact ⟨other, by rwa [Function.update_of_ne here] at within⟩

/-! ## Scoped types -/

/-- A type binds reserved variables only, and leaves none of them free. -/
structure Scoped (reserved : Nat → Prop) (ty : Ty) : Prop where
  free : ∀ id, ty.occurs id → ¬ reserved id
  bound : ∀ id ∈ ty.binders, reserved id

/-- An assignment leaves the reserved variables alone, and gives types in scope to all others. -/
structure Keeps (reserved : Nat → Prop) (assignment : Nat → Ty) : Prop where
  fixed : ∀ id, reserved id → assignment id = .var id
  inScope : ∀ id, ¬ reserved id → (assignment id).Scoped reserved

section Scopes

variable {reserved : Nat → Prop}

theorem scoped_var {id : Nat} (unreserved : ¬ reserved id) : (var id).Scoped reserved := by
  refine ⟨fun other same => ?_, fun other member => by simp [binders] at member⟩
  simp only [occurs, decide_eq_true_eq] at same
  exact same ▸ unreserved

theorem scoped_arrow {source target : Ty} :
    (arrow source target).Scoped reserved ↔ source.Scoped reserved ∧ target.Scoped reserved := by
  constructor
  · rintro ⟨free, bound⟩
    simp only [occurs, binders, Bool.or_eq_true, List.mem_append] at free bound
    exact ⟨⟨fun id inside => free id (.inl inside), fun id member => bound id (.inl member)⟩,
      fun id inside => free id (.inr inside), fun id member => bound id (.inr member)⟩
  · rintro ⟨atSource, atTarget⟩
    refine ⟨fun id inside => ?_, fun id member => ?_⟩
    · simp only [occurs, Bool.or_eq_true] at inside
      exact inside.elim (atSource.free id) (atTarget.free id)
    · exact (List.mem_append.1 member).elim (atSource.bound id) (atTarget.bound id)

/-- The variables of the two types are those of a function type between them. -/
theorem scoped_either {left right : Ty} :
    (either left right).Scoped reserved ↔ left.Scoped reserved ∧ right.Scoped reserved :=
  Iff.trans ⟨fun inScope => ⟨inScope.free, inScope.bound⟩, fun inScope => ⟨inScope.free, inScope.bound⟩⟩
    (@scoped_arrow reserved left right)

/-- Without quantifiers nothing needs to be reserved. -/
theorem scoped_of_quantifierFree {ty : Ty} (free : ty.quantifierFree) : ty.Scoped fun _ => False := by
  refine ⟨fun _ _ kept => kept, fun id member => ?_⟩
  rw [binders_of_quantifierFree free] at member
  exact List.not_mem_nil member

/-- An unreserved variable that does not occur free is not mentioned. -/
theorem Scoped.not_mem_vars {ty : Ty} (inScope : ty.Scoped reserved) {id : Nat} (unreserved : ¬ reserved id)
    (absent : ¬ ty.occurs id) : id ∉ ty.vars := by
  intro member
  rcases occurs_or_mem_binders member with inside | member
  · exact absent inside
  · exact unreserved (inScope.bound id member)

theorem Scoped.under {ty : Ty} (inScope : ty.Scoped reserved) {assignment : Nat → Ty}
    (fixed : ∀ id, reserved id → assignment id = .var id)
    (assigned : ∀ id ∈ ty.vars, ¬ reserved id → (assignment id).Scoped reserved) :
    (ty.under assignment).Scoped reserved := by
  constructor
  · intro id inside
    obtain ⟨other, free, within⟩ :=
      occurs_under (fun bound member => fixed bound (inScope.bound bound member)) inside
    exact (assigned other (mem_vars_of_occurs free) (inScope.free other free)).free id within
  · intro id member
    rcases mem_binders_under.1 member with own | ⟨other, mentioned, within⟩
    · exact inScope.bound id own
    · by_cases kept : reserved other
      · rw [fixed other kept] at within
        simp [binders] at within
      · exact (assigned other mentioned kept).bound id within

theorem Scoped.instantiate {ty : Ty} (inScope : ty.Scoped reserved) {supply : Nat}
    (fresh : ∀ id, reserved id → id < supply) : (ty.instantiate supply).1.Scoped reserved := by
  constructor
  · intro id inside kept
    rcases drawn_of_occurs_instantiate inside with free | drawn
    · exact inScope.free id free kept
    · exact Nat.not_lt.2 drawn.1 (fresh id kept)
  · intro id member
    exact inScope.bound id (mem_binders_of_mem_instantiate member)

namespace Keeps

variable {assignment : Nat → Ty} (keeps : Keeps reserved assignment)

include keeps

theorem not_occurs {id other : Nat} (kept : reserved id) (apart : other ≠ id) :
    ¬ (assignment other).occurs id := by
  intro inside
  by_cases also : reserved other
  · rw [keeps.fixed other also] at inside
    simp only [occurs, decide_eq_true_eq] at inside
    exact apart inside
  · exact (keeps.inScope other also).free id inside kept

theorem bound {id other : Nat} (member : id ∈ (assignment other).binders) : reserved id := by
  by_cases kept : reserved other
  · rw [keeps.fixed other kept] at member
    simp [binders] at member
  · exact (keeps.inScope other kept).bound id member

/-- Putting assigned types for all free variables but one brings in reserved quantifiers only. -/
theorem bound_replaceFree {names : Nat → Nat} {id other : Nat} {body : Ty}
    (own : ∀ inner ∈ body.binders, reserved inner)
    (member : other ∈ (body.replaceFree
      (Function.update (fun free => assignment (names free)) id (.var id))).binders) : reserved other := by
  rcases mem_binders_replaceFree member with inside | ⟨further, within⟩
  · exact own other inside
  · by_cases here : further = id
    · subst here
      simp [binders] at within
    · rw [Function.update_of_ne here] at within
      exact keeps.bound within

end Keeps

end Scopes

end Ty

section Forms

variable {reserved : Nat → Prop} {first second source₁ target₁ source₂ target₂ inner₁ inner₂ : Ty}

theorem InTwo.inScope (parts : InTwo first second source₁ target₁ source₂ target₂)
    (inFirst : first.Scoped reserved) (inSecond : second.Scoped reserved) :
    (source₁.Scoped reserved ∧ source₂.Scoped reserved) ∧
      target₁.Scoped reserved ∧ target₂.Scoped reserved := by
  cases parts with
  | arrow =>
    have atFirst := Ty.scoped_arrow.1 inFirst
    have atSecond := Ty.scoped_arrow.1 inSecond
    exact ⟨⟨atFirst.1, atSecond.1⟩, atFirst.2, atSecond.2⟩
  | either =>
    have atFirst := Ty.scoped_either.1 inFirst
    have atSecond := Ty.scoped_either.1 inSecond
    exact ⟨⟨atFirst.1, atSecond.1⟩, atFirst.2, atSecond.2⟩

theorem InOne.inScope (parts : InOne first second inner₁ inner₂)
    (inFirst : first.Scoped reserved) (inSecond : second.Scoped reserved) :
    inner₁.Scoped reserved ∧ inner₂.Scoped reserved := by
  cases parts with
  | list => exact ⟨⟨inFirst.free, inFirst.bound⟩, inSecond.free, inSecond.bound⟩
  | maybe => exact ⟨⟨inFirst.free, inFirst.bound⟩, inSecond.free, inSecond.bound⟩

end Forms

end TermSpace
