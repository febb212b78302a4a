import TermSpace.Inference.Checker
import TermSpace.Proofs.Ty.Scoping

/-!
# Unification of quantified types

Unification is to make two types equal.  Where it meets a quantified type it goes on with an instance of it,
whatever the other type is, and forgets the quantifier.  What it has at the end are types with a common
special case: both become the same type when some of their quantifiers are opened
(`unify_commonInstance`).  They are equal if none was opened, which the supply tells, since opening draws
on it.

So a type that is quantified unifies with one that is not, though nothing makes them equal, up to the
names of bound variables or otherwise (`unify_quantified_unequal`).
-/

namespace TermSpace

set_option autoImplicit false

namespace Ty

/-! ## Special cases -/

/-- A type becomes another one when some of its quantifiers are opened, the outer ones before the inner ones.
None of the inner ones captures a variable of the type that an outer one is opened for. -/
inductive Specializes : (general special : Ty) → Prop where
  | refl (ty : Ty) : Specializes ty ty
  | arrow {source target source' target' : Ty} (atSource : Specializes source source')
      (atTarget : Specializes target target') :
      Specializes (.arrow source target) (.arrow source' target')
  | either {left right left' right' : Ty} (atLeft : Specializes left left')
      (atRight : Specializes right right') : Specializes (.either left right) (.either left' right')
  | list {element element' : Ty} (inside : Specializes element element') :
      Specializes (.list element) (.list element')
  | maybe {element element' : Ty} (inside : Specializes element element') :
      Specializes (.maybe element) (.maybe element')
  | opened {id : Nat} {body value special : Ty} (apart : ∀ bound ∈ body.binders, ¬ value.occurs bound)
      (below : Specializes (body.replaceFree (Function.update .var id value)) special) :
      Specializes (.quantified id body) special

/-- Two types have a special case in common. -/
def HaveCommonInstance (first second : Ty) : Prop :=
  ∃ special, first.Specializes special ∧ second.Specializes special

theorem HaveCommonInstance.symm {first second : Ty} (common : first.HaveCommonInstance second) :
    second.HaveCommonInstance first := by
  obtain ⟨special, atFirst, atSecond⟩ := common
  exact ⟨special, atSecond, atFirst⟩

theorem HaveCommonInstance.of_eq {first second : Ty} (same : first = second) :
    first.HaveCommonInstance second := ⟨second, same ▸ .refl first, .refl second⟩

/-- Without quantifiers there is nothing to open. -/
theorem Specializes.eq_of_quantifierFree {general special : Ty} (specializes : general.Specializes special)
    (free : general.quantifierFree) : special = general := by
  induction specializes with
  | refl ty => rfl
  | arrow _ _ sourceIH targetIH =>
    have both := quantifierFree_arrow.1 free
    rw [sourceIH both.1, targetIH both.2]
  | either _ _ leftIH rightIH =>
    have both := quantifierFree_either.1 free
    rw [leftIH both.1, rightIH both.2]
  | list _ ih => rw [ih free]
  | maybe _ ih => rw [ih free]
  | opened => simp [quantifierFree] at free

theorem HaveCommonInstance.eq_of_quantifierFree {first second : Ty} (common : first.HaveCommonInstance second)
    (freeFirst : first.quantifierFree) (freeSecond : second.quantifierFree) : first = second := by
  obtain ⟨special, atFirst, atSecond⟩ := common
  rw [← atFirst.eq_of_quantifierFree freeFirst, ← atSecond.eq_of_quantifierFree freeSecond]

/-- **What an instance becomes, the type becomes.** The leading quantifiers are opened for the types that are
assigned to the variables drawn. -/
theorem specializes_of_instantiateUnder {reserved : Nat → Prop} {assignment : Nat → Ty}
    (keeps : Keeps reserved assignment) {names : Nat → Option Nat} {supply : Nat} {ty special : Ty}
    (bound : ∀ id ∈ ty.binders, reserved id) (fresh : ∀ id, reserved id → id < supply)
    (named : ∀ id name, names id = some name → ¬ reserved name)
    (below : ((ty.instantiateUnder names supply).1.under assignment).Specializes special) :
    (ty.replaceFree fun id => assignment ((names id).getD id)).Specializes special := by
  induction ty generalizing names supply with
  | quantified id body ih =>
    have unreserved : ¬ reserved supply := fun kept => Nat.lt_irrefl _ (fresh supply kept)
    have kept : reserved id := bound id List.mem_cons_self
    have later : ∀ other name, (if other = id then some supply else names other) = some name →
        ¬ reserved name := by
      intro other name found
      split at found
      · exact Option.some.inj found ▸ unreserved
      · exact named other name found
    have inner := ih (fun other member => bound other (List.mem_cons_of_mem _ member))
      (fun other kept => Nat.lt_succ_of_lt (fresh other kept)) later below
    refine @Specializes.opened id _ (assignment supply) _ ?_ ?_
    · intro other member inside
      exact (keeps.inScope supply unreserved).free other inside
        (keeps.bound_replaceFree (fun inner within => bound inner (List.mem_cons_of_mem _ within)) member)
    · rw [replaceFree_replaceFree_update]
      · convert inner using 2
        funext other
        by_cases here : other = id
        · simp [here]
        · simp [here]
      · intro other apart
        refine keeps.not_occurs kept ?_
        cases found : names other with
        | none => exact apart
        | some name =>
          rintro rfl
          exact named other _ found kept
  | _ =>
    rwa [instantiateUnder_of_leading_eq_zero rfl, rename_eq_replaceFree, under_replaceFree fun id member => keeps.fixed id (bound id member)] at below

/-- A quantified type under an assignment has the special cases of its instance. -/
theorem specializes_of_instantiate {reserved : Nat → Prop} {assignment : Nat → Ty}
    (keeps : Keeps reserved assignment) {supply : Nat} {ty special : Ty} (inScope : ty.Scoped reserved)
    (fresh : ∀ id, reserved id → id < supply)
    (below : ((ty.instantiate supply).1.under assignment).Specializes special) :
    (ty.under assignment).Specializes special := by
  rw [instantiate_eq_instantiateUnder fun id member => fresh id (inScope.bound id member)] at below
  rw [under_eq_replaceFree fun id member => keeps.fixed id (inScope.bound id member)]
  exact specializes_of_instantiateUnder keeps inScope.bound fresh (by simp) below

end Ty

section Forms

variable {first second source₁ target₁ source₂ target₂ inner₁ inner₂ : Ty}

theorem InTwo.haveCommonInstance (parts : InTwo first second source₁ target₁ source₂ target₂)
    {assignment : Nat → Ty}
    (atSources : (source₁.under assignment).HaveCommonInstance (source₂.under assignment))
    (atTargets : (target₁.under assignment).HaveCommonInstance (target₂.under assignment)) :
    (first.under assignment).HaveCommonInstance (second.under assignment) := by
  obtain ⟨source, fromSource₁, fromSource₂⟩ := atSources
  obtain ⟨target, fromTarget₁, fromTarget₂⟩ := atTargets
  cases parts with
  | arrow => exact ⟨.arrow source target, .arrow fromSource₁ fromTarget₁, .arrow fromSource₂ fromTarget₂⟩
  | either => exact ⟨.either source target, .either fromSource₁ fromTarget₁, .either fromSource₂ fromTarget₂⟩

theorem InOne.haveCommonInstance (parts : InOne first second inner₁ inner₂) {assignment : Nat → Ty}
    (inside : (inner₁.under assignment).HaveCommonInstance (inner₂.under assignment)) :
    (first.under assignment).HaveCommonInstance (second.under assignment) := by
  obtain ⟨inner, from₁, from₂⟩ := inside
  cases parts with
  | list => exact ⟨.list inner, .list from₁, .list from₂⟩
  | maybe => exact ⟨.maybe inner, .maybe from₁, .maybe from₂⟩

end Forms

/-! ## Substitutions in scope -/

namespace Subst

/-- A substitution without circles leaves reserved variables alone and binds the others to types in scope. -/
structure InScope (reserved : Nat → Prop) (subst : Subst) : Prop where
  acyclic : subst.Acyclic
  unbound : ∀ id, reserved id → subst.get? id = none
  values : ∀ id ty, subst.get? id = some ty → ty.Scoped reserved

namespace InScope

variable {reserved : Nat → Prop}

theorem empty : InScope reserved ∅ :=
  ⟨acyclic_empty, fun id _ => by simp, fun id ty found => by simp at found⟩

variable {subst : Subst} (inScope : subst.InScope reserved)

include inScope

theorem insert {id : Nat} {ty : Ty} (unreserved : ¬ reserved id) (new : subst.get? id = none)
    (unbound : ∀ other ∈ ty.vars, subst.get? other = none) (tyInScope : ty.Scoped reserved)
    (absent : ¬ ty.occurs id) : InScope reserved (Dict.insert subst id ty) := by
  refine ⟨inScope.acyclic.insert new unbound (tyInScope.not_mem_vars unreserved absent), ?_, ?_⟩
  · intro other kept
    have apart : id ≠ other := fun same => unreserved (same ▸ kept)
    rw [Dict.get?_insert, if_neg apart, inScope.unbound other kept]
  · intro other bound found
    rw [Dict.get?_insert] at found
    split at found
    · exact Option.some.inj found ▸ tyInScope
    · exact inScope.values other bound found

/-- Application is an assignment that keeps the reserved variables. -/
theorem keeps_image : Ty.Keeps reserved subst.image := by
  have fixed : ∀ id, reserved id → subst.image id = .var id :=
    fun id kept => image_of_free (inScope.unbound id kept)
  refine ⟨fixed, fun id unreserved => ?_⟩
  induction id using inScope.acyclic.induction with
  | free id free =>
    rw [image_of_free free]
    exact Ty.scoped_var unreserved
  | bound id ty found ih =>
    rw [inScope.acyclic.image_of_bound found, apply_eq_under]
    exact (inScope.values id ty found).under fixed ih

theorem apply {ty : Ty} (tyInScope : ty.Scoped reserved) : (subst.apply ty).Scoped reserved := by
  rw [apply_eq_under]
  exact tyInScope.under inScope.keeps_image.fixed fun id _ => inScope.keeps_image.inScope id

end InScope

end Subst

/-! ## What unification owes -/

/-- A substitution and a supply have been extended so that two types meet. -/
structure Unites (reserved : Nat → Prop) (first second : Ty) (subst : Subst) (supply : Nat)
    (extended : Subst) (left : Nat) : Prop where
  inScope : extended.InScope reserved
  supply_le : supply ≤ left
  solved : ∀ assignment, extended.SolvedBy assignment → subst.SolvedBy assignment
  commonInstance : ∀ assignment, Ty.Keeps reserved assignment → extended.SolvedBy assignment →
    (first.under assignment).HaveCommonInstance (second.under assignment)
  /-- If nothing has been drawn, no quantifier has been opened. -/
  equal : left = supply → ∀ assignment, extended.SolvedBy assignment →
    first.under assignment = second.under assignment

namespace Unites

variable {reserved : Nat → Prop} {first second left right : Ty} {subst extended : Subst}
  {supply further : Nat}

/-- Two types may be resolved before they are made to meet. -/
theorem of_apply
    (unites : Unites reserved (subst.apply first) (subst.apply second) subst supply extended further) :
    Unites reserved first second subst supply extended further := by
  refine ⟨unites.inScope, unites.supply_le, unites.solved, ?_, ?_⟩
  · intro assignment keeps solved
    have before := unites.solved assignment solved
    have common := unites.commonInstance assignment keeps solved
    rwa [before.under_apply, before.under_apply] at common
  · intro same assignment solved
    have before := unites.solved assignment solved
    have equal := unites.equal same assignment solved
    rwa [before.under_apply, before.under_apply] at equal

theorem symm (unites : Unites reserved first second subst supply extended further) :
    Unites reserved second first subst supply extended further :=
  ⟨unites.inScope, unites.supply_le, unites.solved,
    fun assignment keeps solved => (unites.commonInstance assignment keeps solved).symm,
    fun same assignment solved => (unites.equal same assignment solved).symm⟩

/-- Types that are equal already. -/
theorem of_eq (inScope : subst.InScope reserved) (same : first = second) :
    Unites reserved first second subst supply subst supply := by
  refine ⟨inScope, Nat.le_refl _, fun assignment solved => solved, ?_, ?_⟩
  · intro assignment _ _
    exact .of_eq (same ▸ rfl)
  · intro _ assignment _
    exact same ▸ rfl

/-- **Binding a variable.** -/
theorem bind (inScope : subst.InScope reserved) {id : Nat} {ty : Ty} (varInScope : (Ty.var id).Scoped reserved)
    (new : subst.get? id = none) (tyInScope : ty.Scoped reserved)
    (unbound : ∀ other ∈ ty.vars, subst.get? other = none) (apart : ty ≠ .var id)
    (binds : subst.bindVar? id ty = some extended) :
    Unites reserved (.var id) ty subst supply extended supply := by
  have unreserved : ¬ reserved id := varInScope.free id (by simp [Ty.occurs])
  unfold Subst.bindVar? at binds
  rw [if_neg apart] at binds
  split at binds
  · simp at binds
  · next absent =>
    obtain rfl := Option.some.inj binds
    have both : ∀ assignment, Subst.SolvedBy (Dict.insert subst id ty) assignment →
        subst.SolvedBy assignment ∧ assignment id = ty.under assignment :=
      fun assignment => (Subst.solvedBy_insert new).1
    exact ⟨inScope.insert unreserved new unbound tyInScope absent, Nat.le_refl _,
      fun assignment solved => (both assignment solved).1,
      fun assignment _ solved => .of_eq (both assignment solved).2,
      fun _ assignment solved => (both assignment solved).2⟩

/-- **Two parts,** one after the other. -/
theorem inTwo {source₁ target₁ source₂ target₂ : Ty} {middle : Subst} {between : Nat}
    (parts : InTwo left right source₁ target₁ source₂ target₂)
    (atSources : Unites reserved source₁ source₂ subst supply middle between)
    (atTargets : Unites reserved target₁ target₂ middle between extended further) :
    Unites reserved left right subst supply extended further := by
  refine ⟨atTargets.inScope, Nat.le_trans atSources.supply_le atTargets.supply_le, ?_, ?_, ?_⟩
  · intro assignment solved
    exact atSources.solved assignment (atTargets.solved assignment solved)
  · intro assignment keeps solved
    exact parts.haveCommonInstance
      (atSources.commonInstance assignment keeps (atTargets.solved assignment solved))
      (atTargets.commonInstance assignment keeps solved)
  · intro same assignment solved
    have before := atSources.supply_le
    have after := atTargets.supply_le
    exact (parts.under_eq_iff assignment).2
      ⟨atSources.equal (by omega) assignment (atTargets.solved assignment solved),
        atTargets.equal (by omega) assignment solved⟩

theorem inOne {inner₁ inner₂ : Ty} (parts : InOne left right inner₁ inner₂)
    (inside : Unites reserved inner₁ inner₂ subst supply extended further) :
    Unites reserved left right subst supply extended further :=
  ⟨inside.inScope, inside.supply_le, inside.solved,
    fun assignment keeps solved => parts.haveCommonInstance (inside.commonInstance assignment keeps solved),
    fun same assignment solved => (parts.under_eq_iff assignment).2 (inside.equal same assignment solved)⟩

/-- **Opening a quantifier.** -/
theorem instantiate {id : Nat} {body : Ty} (fresh : ∀ id, reserved id → id < supply)
    (inScope : (Ty.quantified id body).Scoped reserved)
    (inside : Unites reserved ((Ty.quantified id body).instantiate supply).1 right subst
      ((Ty.quantified id body).instantiate supply).2 extended further) :
    Unites reserved (.quantified id body) right subst supply extended further := by
  have drawn : supply < ((Ty.quantified id body).instantiate supply).2 :=
    Ty.lt_instantiate_quantified id body supply
  have grown := inside.supply_le
  refine ⟨inside.inScope, by omega, inside.solved, ?_, ?_⟩
  · intro assignment keeps solved
    obtain ⟨special, atInstance, atOther⟩ := inside.commonInstance assignment keeps solved
    exact ⟨special, Ty.specializes_of_instantiate keeps inScope fresh atInstance, atOther⟩
  · intro same
    omega

end Unites

/-! ## One level after the other -/

/-- Where unification succeeds that nests so deep at most, the types meet. -/
def UnitesAt (reserved : Nat → Prop) (depth : Nat) : Prop :=
  ∀ {first second : Ty} {subst extended : Subst} {supply left : Nat}, subst.InScope reserved →
    (∀ id, reserved id → id < supply) → first.Scoped reserved → second.Scoped reserved →
      unifyWithin depth first second subst supply = some (extended, left) →
        Unites reserved first second subst supply extended left

section Levels

variable {reserved : Nat → Prop} {depth : Nat} (below : UnitesAt reserved depth)
variable {first second : Ty} {subst extended : Subst} {supply left : Nat}
variable (inScope : subst.InScope reserved) (fresh : ∀ id, reserved id → id < supply)
variable (inFirst : first.Scoped reserved) (inSecond : second.Scoped reserved)

include below inScope fresh inFirst inSecond

theorem unites_inTwo {source₁ target₁ source₂ target₂ : Ty}
    (parts : InTwo first second source₁ target₁ source₂ target₂)
    (unifies : ((unifyWithin depth source₁ source₂ subst supply).bind fun result =>
      unifyWithin depth target₁ target₂ result.1 result.2) = some (extended, left)) :
    Unites reserved first second subst supply extended left := by
  obtain ⟨⟨middle, between⟩, sources, targets⟩ := Option.bind_eq_some_iff.1 unifies
  obtain ⟨inSources, inTargets⟩ := parts.inScope inFirst inSecond
  have atSources := below inScope fresh inSources.1 inSources.2 sources
  have freshThen : ∀ id, reserved id → id < between :=
    fun id kept => Nat.lt_of_lt_of_le (fresh id kept) atSources.supply_le
  exact .inTwo parts atSources (below atSources.inScope freshThen inTargets.1 inTargets.2 targets)

theorem unites_inOne {inner₁ inner₂ : Ty} (parts : InOne first second inner₁ inner₂)
    (unifies : unifyWithin depth inner₁ inner₂ subst supply = some (extended, left)) :
    Unites reserved first second subst supply extended left := by
  obtain ⟨inInner₁, inInner₂⟩ := parts.inScope inFirst inSecond
  exact .inOne parts (below inScope fresh inInner₁ inInner₂ unifies)

theorem unites_opened {id : Nat} {body : Ty} (form : first = .quantified id body)
    (unifies : unifyWithin depth (first.instantiate supply).1 second subst (first.instantiate supply).2 =
      some (extended, left)) :
    Unites reserved first second subst supply extended left := by
  subst form
  have freshThen : ∀ other, reserved other → other < ((Ty.quantified id body).instantiate supply).2 :=
    fun other kept => Nat.lt_of_lt_of_le (fresh other kept) (Ty.le_instantiate _ _)
  exact .instantiate fresh inFirst (below inScope freshThen (inFirst.instantiate fresh) inSecond unifies)

end Levels

/-- **Unification makes types meet,** however deep it nests. -/
theorem unitesAt (reserved : Nat → Prop) (depth : Nat) : UnitesAt reserved depth := by
  induction depth with
  | zero =>
    intro first second subst extended supply left _ _ _ _ unifies
    simp [unifyWithin] at unifies
  | succ depth below =>
    intro first second subst extended supply left inScope fresh inFirst inSecond unifies
    -- from here on the types are resolved
    refine Unites.of_apply ?_
    replace inFirst := inScope.apply inFirst
    replace inSecond := inScope.apply inSecond
    have unboundFirst : ∀ id ∈ (subst.apply first).vars, subst.get? id = none :=
      fun id member => inScope.acyclic.unbound_of_mem_vars member
    have unboundSecond : ∀ id ∈ (subst.apply second).vars, subst.get? id = none :=
      fun id member => inScope.acyclic.unbound_of_mem_vars member
    simp only [unifyWithin] at unifies
    generalize subst.apply first = resolved₁ at *
    generalize subst.apply second = resolved₂ at *
    split at unifies
    · next same =>
      cases unifies
      exact .of_eq inScope same
    next apart =>
    split at unifies
    · next id =>
      obtain ⟨bound, binds, same⟩ := Option.map_eq_some_iff.1 unifies
      cases same
      exact .bind inScope inFirst (unboundFirst id (by simp [Ty.vars])) inSecond unboundSecond
        (Ne.symm apart) binds
    · next id _ =>
      obtain ⟨bound, binds, same⟩ := Option.map_eq_some_iff.1 unifies
      cases same
      exact .symm (.bind inScope inSecond (unboundSecond id (by simp [Ty.vars])) inFirst unboundFirst
        apart binds)
    · exact unites_inTwo below inScope fresh inFirst inSecond (.arrow _ _ _ _) unifies
    · exact unites_inTwo below inScope fresh inFirst inSecond (.either _ _ _ _) unifies
    · exact unites_inOne below inScope fresh inFirst inSecond (.list _ _) unifies
    · exact unites_inOne below inScope fresh inFirst inSecond (.maybe _ _) unifies
    · exact unites_opened below inScope fresh inFirst inSecond rfl unifies
    · exact .symm (unites_opened below inScope fresh inSecond inFirst rfl unifies)
    · simp at unifies

/-! ## Unification from the start -/

/-- No variable is both free and bound in two types, and the supply is past those that they bind. -/
structure Ty.SetApart (first second : Ty) (supply : Nat) : Prop where
  free : ∀ id, first.occurs id ∨ second.occurs id → id ∉ first.binders ∧ id ∉ second.binders
  fresh : ∀ id, id ∈ first.binders ∨ id ∈ second.binders → id < supply

/-- **Unification finds a common instance.** Under the solution, two types that unify become the same type when
some of their quantifiers are opened.  They are equal under it if unification has opened none, and also if it
has left none.  This is so however deep unification may nest; `Strategy.unify` sets one bound. -/
theorem unify_commonInstance {first second : Ty} {supply : Nat} (apart : first.SetApart second supply)
    {depth : Nat} {solution : Subst} {left : Nat}
    (unifies : unifyWithin depth first second ∅ supply = some (solution, left)) :
    (solution.apply first).HaveCommonInstance (solution.apply second) ∧
      (left = supply → solution.apply first = solution.apply second) ∧
      ((solution.apply first).quantifierFree → (solution.apply second).quantifierFree →
        solution.apply first = solution.apply second) := by
  let reserved : Nat → Prop := fun id => id ∈ first.binders ∨ id ∈ second.binders
  have inFirst : first.Scoped reserved :=
    ⟨fun id inside => not_or.2 (apart.free id (.inl inside)), fun id member => .inl member⟩
  have inSecond : second.Scoped reserved :=
    ⟨fun id inside => not_or.2 (apart.free id (.inr inside)), fun id member => .inr member⟩
  have unites := unitesAt reserved depth .empty apart.fresh inFirst inSecond unifies
  have solved := unites.inScope.acyclic.solvedBy_image
  have common := unites.commonInstance _ unites.inScope.keeps_image solved
  rw [Subst.apply_eq_under, Subst.apply_eq_under]
  exact ⟨common, fun same => unites.equal same _ solved, common.eq_of_quantifierFree⟩

/-- Functions from a polymorphic function to some type. -/
def fromPolymorphic (target : Ty) : Ty :=
  .arrow (.quantified 0 (.arrow (.var 0) (.list (.var 0)))) target

/-- Functions from a function of numbers to what may be missing of the type that it gives. -/
def fromNumeric : Ty := .arrow (.arrow .number (.var 2)) (.maybe (.var 2))

/-- The polymorphic function is opened next to one of numbers, and left alone next to itself. -/
theorem unify_commonInstance_fromPolymorphic :
    ((fromPolymorphic (.var 1)).SetApart fromNumeric 3 ∧
      ∃ solution, Strategy.hindleyMilner.unify (fromPolymorphic (.var 1)) fromNumeric ∅ 3 =
          some (solution, 4) ∧
        (solution.apply (fromPolymorphic (.var 1))).HaveCommonInstance (solution.apply fromNumeric)) ∧
    (fromPolymorphic (.var 1)).SetApart (fromPolymorphic .bool) 3 ∧
      ∃ solution, Strategy.hindleyMilner.unify (fromPolymorphic (.var 1)) (fromPolymorphic .bool) ∅ 3 =
          some (solution, 3) ∧
        solution.apply (fromPolymorphic (.var 1)) = solution.apply (fromPolymorphic .bool) := by
  have apart : (fromPolymorphic (.var 1)).SetApart fromNumeric 3 := by
    constructor
    · intro id inside
      have free : id = 1 ∨ id = 2 := by
        simpa [fromPolymorphic, fromNumeric, Ty.occurs, Ty.number, eq_comm] using inside
      rcases free with rfl | rfl <;> decide
    · simp [fromPolymorphic, fromNumeric, Ty.binders, Ty.number]
  have apartToo : (fromPolymorphic (.var 1)).SetApart (fromPolymorphic .bool) 3 := by
    constructor
    · intro id inside
      have free : id = 1 := by simpa [fromPolymorphic, Ty.occurs, Ty.bool, eq_comm] using inside
      subst free
      decide
    · simp [fromPolymorphic, Ty.binders, Ty.bool]
  have opens : Strategy.hindleyMilner.unify (fromPolymorphic (.var 1)) fromNumeric ∅ 3 = some (_, 4) := rfl
  have leaves : Strategy.hindleyMilner.unify (fromPolymorphic (.var 1)) (fromPolymorphic .bool) ∅ 3 =
      some (_, 3) := rfl
  exact ⟨⟨apart, _, opens, (unify_commonInstance apart opens).1⟩,
    apartToo, _, leaves, (unify_commonInstance apartToo leaves).2.1 rfl⟩

/-! ## Equality up to the names of bound variables -/

namespace Ty

/-- Whether two variables are the same one inside quantifiers that bind these pairs of variables, the innermost
pair first. -/
def sameVariable : (bound : List (Nat × Nat)) → (first second : Nat) → Bool
  | [], first, second => first = second
  | (bound₁, bound₂) :: outer, first, second =>
    if first = bound₁ ∨ second = bound₂ then first = bound₁ ∧ second = bound₂
    else sameVariable outer first second

/-- Whether two types are the same inside quantifiers that bind these pairs of variables. -/
def sameUpToNames (bound : List (Nat × Nat)) : (first second : Ty) → Bool
  | .var id₁, .var id₂ => sameVariable bound id₁ id₂
  | .base name₁, .base name₂ => name₁ = name₂
  | .vector length₁, .vector length₂ => length₁ = length₂
  | .arrow source₁ target₁, .arrow source₂ target₂ =>
    source₁.sameUpToNames bound source₂ && target₁.sameUpToNames bound target₂
  | .either left₁ right₁, .either left₂ right₂ =>
    left₁.sameUpToNames bound left₂ && right₁.sameUpToNames bound right₂
  | .list element₁, .list element₂ => element₁.sameUpToNames bound element₂
  | .maybe element₁, .maybe element₂ => element₁.sameUpToNames bound element₂
  | .quantified id₁ body₁, .quantified id₂ body₂ => body₁.sameUpToNames ((id₁, id₂) :: bound) body₂
  | _, _ => false

/-- Two types are equal up to the names of bound variables. -/
def AlphaEquivalent (first second : Ty) : Prop := first.sameUpToNames [] second

instance (first second : Ty) : Decidable (first.AlphaEquivalent second) :=
  inferInstanceAs (Decidable (first.sameUpToNames [] second = true))

example : (quantified 0 (.arrow (.var 0) (.var 2))).AlphaEquivalent
    (.quantified 1 (.arrow (.var 1) (.var 2))) := by decide

end Ty

/-- **Unifying with a quantified type makes nothing equal.** The type of all types unifies with that of numbers,
and is no less quantified under the solution; a number passes as being of every type. -/
theorem unify_quantified_unequal :
    (Ty.quantified 0 (.var 0)).SetApart .number 1 ∧
    (∃ solution, Strategy.hindleyMilner.unify (.quantified 0 (.var 0)) .number ∅ 1 = some (solution, 2) ∧
      ¬ (solution.apply (.quantified 0 (.var 0))).AlphaEquivalent (solution.apply .number)) ∧
    (Checker.infer ⟨.hindleyMilner, ∅⟩
      (.compound ":" [.atom "5", .apply (.atom "forall") [.atom "$a", .atom "$a"]]) 1).map (·.ty) =
        .ok (.quantified 1 (.var 1)) := by
  refine ⟨⟨?_, ?_⟩, ⟨_, rfl, by decide⟩, rfl⟩
  · simp [Ty.occurs, Ty.number]
  · simp [Ty.binders, Ty.number]

end TermSpace
