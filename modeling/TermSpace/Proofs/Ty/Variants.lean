import Mathlib.Data.Finset.Range
import Mathlib.Data.Set.Function
import TermSpace.Proofs.Ty.Assignment

/-!
# Instances in common, up to variables

A type covers its instances, the types that it becomes under assignments.  Two types that cover each other are
variants, the same up to other variables (`variant_iff_covers`), so what two types have in common as their most
general instance is determined up to its variables (`MostGeneralInstance.iff_variant`).

Having an instance in common is not the same as being unifiable, since unification keeps the variables that the
types share.  It is the same once one of the types has been replaced by a variant that shares none
(`RenamedApart.unifiable_iff`), and there always is such a variant (`exists_renamedApart`).
-/

namespace TermSpace.Ty

set_option autoImplicit false

/-! ## Covering -/

/-- Another type is an instance of a type. -/
def Covers (ty other : Ty) : Prop := ∃ assignment : Nat → Ty, other = ty.under assignment

theorem Covers.refl (ty : Ty) : ty.Covers ty := ⟨.var, (under_self ty).symm⟩

theorem Covers.trans {first second third : Ty} (atFirst : first.Covers second)
    (atSecond : second.Covers third) : first.Covers third := by
  obtain ⟨assignment, rfl⟩ := atFirst
  obtain ⟨further, rfl⟩ := atSecond
  exact ⟨_, under_under assignment further first⟩

/-- What a type becomes tells what its variables stand for. -/
theorem eq_of_under_eq {first second : Nat → Ty} {ty : Ty} (same : ty.under first = ty.under second) :
    ∀ id ∈ ty.vars, first id = second id := by
  induction ty with
  | var id =>
    intro other member
    simp only [vars, List.mem_singleton] at member
    exact member ▸ same
  | base name => simp [vars]
  | vector length => simp [vars]
  | arrow source target sourceIH targetIH =>
    simp only [under_arrow, arrow.injEq] at same
    exact List.forall_mem_append.2 ⟨sourceIH same.1, targetIH same.2⟩
  | either left right leftIH rightIH =>
    simp only [under_either, either.injEq] at same
    exact List.forall_mem_append.2 ⟨leftIH same.1, rightIH same.2⟩
  | list element ih => exact ih (list.inj same)
  | maybe element ih => exact ih (maybe.inj same)
  | quantified id body ih => exact ih (quantified.inj same).2

/-! ## Variants -/

/-- Another type is a type with other variables: different ones for different ones. -/
def Variant (ty other : Ty) : Prop :=
  ∃ names : Nat → Nat, Set.InjOn names {id | id ∈ ty.vars} ∧ other = ty.under fun id => .var (names id)

theorem Variant.covers {ty other : Ty} (variant : ty.Variant other) : ty.Covers other := by
  obtain ⟨names, -, same⟩ := variant
  exact ⟨_, same⟩

/-- The names can be taken back. -/
theorem Variant.covered {ty other : Ty} (variant : ty.Variant other) : other.Covers ty := by
  obtain ⟨names, distinct, rfl⟩ := variant
  refine ⟨fun name => .var (Function.invFunOn names {id | id ∈ ty.vars} name), ?_⟩
  rw [under_under]
  refine (under_eq_self fun id member => ?_).symm
  rw [under_var, distinct.leftInvOn_invFunOn member]

/-- **Types that cover each other are variants.** What a variable becomes one way has to be taken back the
other way, so it is a variable, and one that no other variable becomes. -/
theorem variant_of_covers {ty other : Ty} (forth : ty.Covers other) (back : other.Covers ty) :
    ty.Variant other := by
  obtain ⟨assignment, rfl⟩ := forth
  obtain ⟨inverse, same⟩ := back
  have undone : ∀ id ∈ ty.vars, (assignment id).under inverse = .var id := by
    rw [under_under] at same
    exact eq_of_under_eq (same.symm.trans (under_self ty).symm)
  have isVar : ∀ id ∈ ty.vars, ∃ name, assignment id = .var name := by
    intro id member
    have := undone id member
    cases stands : assignment id with
    | var name => exact ⟨name, rfl⟩
    | _ => simp [stands] at this
  choose! names stands using isVar
  refine ⟨names, fun id member another member' equal => ?_, under_congr stands⟩
  have alike := undone id member
  rw [stands id member, equal, ← stands another member', undone another member'] at alike
  exact (var.inj alike).symm

theorem variant_iff_covers {ty other : Ty} : ty.Variant other ↔ ty.Covers other ∧ other.Covers ty :=
  ⟨fun variant => ⟨variant.covers, variant.covered⟩, fun both => variant_of_covers both.1 both.2⟩

/-! ## Renaming apart -/

/-- Some assignment makes two types equal. -/
def Unifiable (first second : Ty) : Prop :=
  ∃ assignment : Nat → Ty, first.under assignment = second.under assignment

/-- A variant of a type has no variable in common with another type. -/
structure RenamedApart (ty other copy : Ty) : Prop where
  variant : ty.Variant copy
  apart : ∀ id ∈ copy.vars, id ∉ other.vars

/-- **A type can be renamed apart from any other.** -/
theorem exists_renamedApart (ty other : Ty) : ∃ copy, ty.RenamedApart other copy := by
  obtain ⟨floor, below⟩ := other.vars.toFinset.exists_nat_subset_range
  refine ⟨ty.under fun id => .var (floor + id), ⟨(floor + ·), ?_, rfl⟩, ?_⟩
  · intro id _ another _ equal
    exact Nat.add_left_cancel equal
  · intro id member inside
    obtain ⟨origin, -, same⟩ := mem_vars_under.1 member
    simp only [vars, List.mem_singleton] at same
    have := Finset.mem_range.1 (below (List.mem_toFinset.2 inside))
    omega

/-- **Renamed apart, types are unifiable just if they have an instance in common.** -/
theorem RenamedApart.unifiable_iff {ty other copy : Ty} (renamed : ty.RenamedApart other copy) :
    copy.Unifiable other ↔ ∃ common, ty.Covers common ∧ other.Covers common := by
  constructor
  · rintro ⟨assignment, same⟩
    exact ⟨_, renamed.variant.covers.trans ⟨assignment, rfl⟩, assignment, same⟩
  · rintro ⟨common, atTy, atOther⟩
    obtain ⟨first, atCopy⟩ := renamed.variant.covered.trans atTy
    obtain ⟨second, atOther⟩ := atOther
    refine ⟨fun id => if id ∈ copy.vars then first id else second id, ?_⟩
    rw [@under_congr _ first copy fun id member => if_pos member,
      @under_congr _ second other fun id member => if_neg fun inside => renamed.apart id inside member,
      ← atCopy, atOther]

/-! ## Most general instances -/

/-- A type is an instance of two types and covers all other such types. -/
structure MostGeneralInstance (first second ty : Ty) : Prop where
  ofFirst : first.Covers ty
  ofSecond : second.Covers ty
  general : ∀ other, first.Covers other → second.Covers other → ty.Covers other

theorem mostGeneralInstance_self (ty : Ty) : MostGeneralInstance ty ty ty :=
  ⟨.refl ty, .refl ty, fun _ covers _ => covers⟩

theorem MostGeneralInstance.of_variant {first second ty copy : Ty}
    (most : MostGeneralInstance first second ty) (variant : first.Variant copy) :
    MostGeneralInstance copy second ty :=
  ⟨variant.covered.trans most.ofFirst, most.ofSecond, fun other ofCopy ofSecond =>
    most.general other (variant.covers.trans ofCopy) ofSecond⟩

/-- **The most general instance in common is determined up to its variables.** -/
theorem MostGeneralInstance.iff_variant {first second ty : Ty} (most : MostGeneralInstance first second ty)
    {other : Ty} : MostGeneralInstance first second other ↔ ty.Variant other := by
  rw [variant_iff_covers]
  constructor
  · intro alike
    exact ⟨most.general other alike.ofFirst alike.ofSecond, alike.general ty most.ofFirst most.ofSecond⟩
  · rintro ⟨covers, covered⟩
    refine ⟨most.ofFirst.trans covers, most.ofSecond.trans covers, fun another atFirst atSecond => ?_⟩
    exact covered.trans (most.general another atFirst atSecond)

end TermSpace.Ty
