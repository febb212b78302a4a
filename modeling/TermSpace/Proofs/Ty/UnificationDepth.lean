import Mathlib.Algebra.Group.Nat.Defs
import Mathlib.Data.Finset.Card
import TermSpace.Proofs.Ty.UnificationRun

/-!
# The depth of unification

The unifier of the program nests as deep as a bound allows, and gives up beyond it.  Between types without
quantifiers the bound is never met: what the unifier does is a run, and runs do not know the bound
(`Strategy.unify_run`).

The argument keeps two things in view, the unbound variables that the types can still mention and a bound on
the heights of what they resolve to.  Going into a part takes one off the height.  A binding takes
one off the variables and at most doubles the height, also of every type that waits for its turn
(`Subst.Grows`).  So the product of the height and two to the power of the number of variables goes down.
-/

namespace TermSpace

set_option autoImplicit false

namespace Ty

/-- The number of type formers on the longest way down into a type. -/
def height : Ty → Nat
  | .var _ => 0
  | .base _ => 0
  | .vector _ => 0
  | .arrow source target => max source.height target.height + 1
  | .either left right => max left.height right.height + 1
  | .list element => element.height + 1
  | .maybe element => element.height + 1
  | .quantified _ body => body.height + 1

theorem height_under_le {assignment : Nat → Ty} {bound : Nat} {ty : Ty}
    (assigned : ∀ id ∈ ty.vars, (assignment id).height ≤ bound) :
    (ty.under assignment).height ≤ ty.height + bound := by
  induction ty with
  | var id => simpa [height] using assigned id (by simp [vars])
  | base name => exact Nat.zero_le _
  | vector length => exact Nat.zero_le _
  | arrow source target sourceIH targetIH =>
    have atSource := sourceIH fun id member => assigned id (by simp [vars, member])
    have atTarget := targetIH fun id member => assigned id (by simp [vars, member])
    simp only [under_arrow, height]
    omega
  | either left right leftIH rightIH =>
    have atLeft := leftIH fun id member => assigned id (by simp [vars, member])
    have atRight := rightIH fun id member => assigned id (by simp [vars, member])
    simp only [under_either, height]
    omega
  | list element ih =>
    have inside := ih assigned
    simp only [under_list, height]
    omega
  | maybe element ih =>
    have inside := ih assigned
    simp only [under_maybe, height]
    omega
  | quantified id body ih =>
    have inside := ih assigned
    simp only [under_quantified, height]
    omega

theorem height_add_length_vars_le_size (ty : Ty) : ty.height + ty.vars.length ≤ ty.size := by
  induction ty with
  | var id => exact Nat.le_refl 1
  | base name => exact Nat.zero_le 1
  | vector length => exact Nat.zero_le 1
  | arrow left right leftIH rightIH | either left right leftIH rightIH =>
    simp only [height, vars, size, List.length_append]
    omega
  | list element ih | maybe element ih =>
    simp only [height, vars, size]
    omega
  | quantified id body ih =>
    simp only [height, vars, size]
    omega

/-- A type is so high at most and mentions no variables but these. -/
structure Within (among : Finset Nat) (bound : Nat) (ty : Ty) : Prop where
  height_le : ty.height ≤ bound
  mem : ∀ id ∈ ty.vars, id ∈ among

end Ty

section Forms

variable {among : Finset Nat} {bound : Nat}
variable {first second source₁ target₁ source₂ target₂ inner₁ inner₂ : Ty}

theorem InTwo.height_lt (parts : InTwo first second source₁ target₁ source₂ target₂) :
    (source₁.height < first.height ∧ source₂.height < second.height) ∧
      target₁.height < first.height ∧ target₂.height < second.height := by
  cases parts with
  | arrow =>
    simp only [Ty.height]
    omega
  | either =>
    simp only [Ty.height]
    omega

theorem InOne.height_lt (parts : InOne first second inner₁ inner₂) :
    inner₁.height < first.height ∧ inner₂.height < second.height := by
  cases parts with
  | list => exact ⟨Nat.lt_succ_self _, Nat.lt_succ_self _⟩
  | maybe => exact ⟨Nat.lt_succ_self _, Nat.lt_succ_self _⟩

theorem InTwo.forall_vars (parts : InTwo first second source₁ target₁ source₂ target₂)
    {holds : Nat → Prop} (atFirst : ∀ id ∈ first.vars, holds id)
    (atSecond : ∀ id ∈ second.vars, holds id) :
    ((∀ id ∈ source₁.vars, holds id) ∧ ∀ id ∈ source₂.vars, holds id) ∧
      (∀ id ∈ target₁.vars, holds id) ∧ ∀ id ∈ target₂.vars, holds id := by
  cases parts with
  | arrow =>
    simp only [Ty.vars, List.mem_append] at atFirst atSecond
    exact ⟨⟨fun id member => atFirst id (.inl member), fun id member => atSecond id (.inl member)⟩,
      fun id member => atFirst id (.inr member), fun id member => atSecond id (.inr member)⟩
  | either =>
    simp only [Ty.vars, List.mem_append] at atFirst atSecond
    exact ⟨⟨fun id member => atFirst id (.inl member), fun id member => atSecond id (.inl member)⟩,
      fun id member => atFirst id (.inr member), fun id member => atSecond id (.inr member)⟩

theorem InOne.forall_vars (parts : InOne first second inner₁ inner₂)
    {holds : Nat → Prop} (atFirst : ∀ id ∈ first.vars, holds id)
    (atSecond : ∀ id ∈ second.vars, holds id) :
    (∀ id ∈ inner₁.vars, holds id) ∧ ∀ id ∈ inner₂.vars, holds id := by
  cases parts with
  | list => exact ⟨atFirst, atSecond⟩
  | maybe => exact ⟨atFirst, atSecond⟩

theorem InTwo.within (parts : InTwo first second source₁ target₁ source₂ target₂)
    (inFirst : first.Within among bound) (inSecond : second.Within among bound) :
    0 < bound ∧
      (source₁.Within among (bound - 1) ∧ source₂.Within among (bound - 1)) ∧
      target₁.Within among (bound - 1) ∧ target₂.Within among (bound - 1) := by
  obtain ⟨lowSources, lowTargets⟩ := parts.height_lt
  obtain ⟨memSources, memTargets⟩ := parts.forall_vars inFirst.mem inSecond.mem
  have high₁ := inFirst.height_le
  have high₂ := inSecond.height_le
  exact ⟨by omega, ⟨⟨by omega, memSources.1⟩, by omega, memSources.2⟩, ⟨by omega, memTargets.1⟩,
    by omega, memTargets.2⟩

theorem InOne.within (parts : InOne first second inner₁ inner₂)
    (inFirst : first.Within among bound) (inSecond : second.Within among bound) :
    0 < bound ∧ inner₁.Within among (bound - 1) ∧ inner₂.Within among (bound - 1) := by
  obtain ⟨low₁, low₂⟩ := parts.height_lt
  obtain ⟨mem₁, mem₂⟩ := parts.forall_vars inFirst.mem inSecond.mem
  have high₁ := inFirst.height_le
  have high₂ := inSecond.height_le
  exact ⟨by omega, ⟨by omega, mem₁⟩, by omega, mem₂⟩

end Forms

/-! ## What types resolve to -/

/-- A type resolves to one that is so high at most and mentions no variables but these. -/
def Subst.Fits (subst : Subst) (among : Finset Nat) (bound : Nat) (ty : Ty) : Prop :=
  (subst.apply ty).Within among bound

section Parts

variable {subst : Subst} {among : Finset Nat} {bound : Nat}
variable {first second left right source₁ target₁ source₂ target₂ inner₁ inner₂ : Ty}

theorem Subst.Resolves.within (acyclic : subst.Acyclic) (fits : subst.Fits among bound first)
    (resolves : subst.Resolves first left) : left.Within among bound :=
  resolves.eq_apply acyclic ▸ fits

/-- The parts of what two types resolve to are less high. -/
theorem InTwo.fits (parts : InTwo left right source₁ target₁ source₂ target₂) (acyclic : subst.Acyclic)
    (differ : subst.Differ first second left right) (fitsFirst : subst.Fits among bound first)
    (fitsSecond : subst.Fits among bound second) :
    0 < bound ∧
      (subst.Fits among (bound - 1) source₁ ∧ subst.Fits among (bound - 1) source₂) ∧
      subst.Fits among (bound - 1) target₁ ∧ subst.Fits among (bound - 1) target₂ := by
  have unbound := parts.forall_vars (differ.atFirst.unbound acyclic) (differ.atSecond.unbound acyclic)
  unfold Subst.Fits
  rw [Subst.apply_eq_self unbound.1.1, Subst.apply_eq_self unbound.1.2, Subst.apply_eq_self unbound.2.1,
    Subst.apply_eq_self unbound.2.2]
  exact parts.within (differ.atFirst.within acyclic fitsFirst) (differ.atSecond.within acyclic fitsSecond)

theorem InOne.fits (parts : InOne left right inner₁ inner₂) (acyclic : subst.Acyclic)
    (differ : subst.Differ first second left right) (fitsFirst : subst.Fits among bound first)
    (fitsSecond : subst.Fits among bound second) :
    0 < bound ∧ subst.Fits among (bound - 1) inner₁ ∧ subst.Fits among (bound - 1) inner₂ := by
  have unbound := parts.forall_vars (differ.atFirst.unbound acyclic) (differ.atSecond.unbound acyclic)
  unfold Subst.Fits
  rw [Subst.apply_eq_self unbound.1, Subst.apply_eq_self unbound.2]
  exact parts.within (differ.atFirst.within acyclic fitsFirst) (differ.atSecond.within acyclic fitsSecond)

end Parts

/-! ## Growth -/

/-- So many bindings have taken variables away, and all types of some height at least have been doubled once
a binding at most. -/
structure Subst.Grows (subst extended : Subst) (among fewer : Finset Nat) (bound bindings : Nat) :
    Prop where
  counted : fewer.card + bindings = among.card
  fits : ∀ larger, bound ≤ larger → ∀ ty, subst.Fits among larger ty →
    extended.Fits fewer (larger * 2 ^ bindings) ty

namespace Subst

theorem Grows.refl (subst : Subst) (among : Finset Nat) (bound : Nat) :
    subst.Grows subst among among bound 0 := by
  refine ⟨rfl, fun larger _ ty fits => ?_⟩
  rwa [Nat.pow_zero, Nat.mul_one]

theorem Grows.mono {subst extended : Subst} {among fewer : Finset Nat} {lower bound bindings : Nat}
    (grows : subst.Grows extended among fewer lower bindings) (below : lower ≤ bound) :
    subst.Grows extended among fewer bound bindings :=
  ⟨grows.counted, fun larger above => grows.fits larger (Nat.le_trans below above)⟩

theorem Grows.trans {subst extended further : Subst} {among fewer fewest : Finset Nat}
    {bound bindings more : Nat} (grows : subst.Grows extended among fewer bound bindings)
    (grows' : extended.Grows further fewer fewest (bound * 2 ^ bindings) more) :
    subst.Grows further among fewest bound (bindings + more) := by
  refine ⟨?_, fun larger above ty fits => ?_⟩
  · have := grows.counted
    have := grows'.counted
    omega
  · rw [Nat.pow_add, ← Nat.mul_assoc]
    exact grows'.fits _ (Nat.mul_le_mul_right _ above) ty (grows.fits larger above ty fits)

/-- **A binding at most doubles the heights and takes away its variable.** -/
theorem Acyclic.grows_insert {subst : Subst} (acyclic : subst.Acyclic) {id : Nat} {ty : Ty}
    (new : subst.get? id = none) (unbound : ∀ other ∈ ty.vars, subst.get? other = none)
    (apart : id ∉ ty.vars) {among : Finset Nat} {bound : Nat} (member : id ∈ among)
    (within : ty.Within among bound) :
    subst.Grows (Dict.insert subst id ty) among (among.erase id) bound 1 := by
  refine ⟨Finset.card_erase_add_one member, fun larger above target fits => ?_⟩
  unfold Fits
  rw [acyclic.apply_insert new unbound apart]
  refine ⟨?_, fun inner inside => ?_⟩
  · have images : ∀ other ∈ (subst.apply target).vars,
        (Function.update Ty.var id ty other).height ≤ bound := by
      intro other _
      by_cases here : other = id
      · rw [here, Function.update_self]
        exact within.height_le
      · rw [Function.update_of_ne here]
        exact Nat.zero_le bound
    have atMost := Ty.height_under_le images
    have := fits.height_le
    omega
  · obtain ⟨other, within', deeper⟩ := Ty.mem_vars_under.1 inside
    by_cases here : other = id
    · rw [here, Function.update_self] at deeper
      exact Finset.mem_erase.2 ⟨fun same => apart (same ▸ deeper), within.mem inner deeper⟩
    · rw [Function.update_of_ne here] at deeper
      simp only [Ty.vars, List.mem_singleton] at deeper
      exact Finset.mem_erase.2 ⟨deeper ▸ here, deeper ▸ fits.mem other within'⟩

/-- Two types resolve to a variable and another type, and the variable can be bound. -/
theorem Acyclic.grows_bindVar? {subst extended : Subst} (acyclic : subst.Acyclic) {id : Nat} {ty : Ty}
    (new : subst.get? id = none) (unbound : ∀ other ∈ ty.vars, subst.get? other = none)
    (free : ty.quantifierFree) (apart : ty ≠ .var id) {among : Finset Nat} {bound : Nat}
    (withinVar : (Ty.var id).Within among bound) (within : ty.Within among bound)
    (found : subst.bindVar? id ty = some extended) :
    subst.Grows extended among (among.erase id) bound 1 := by
  unfold bindVar? at found
  rw [if_neg apart] at found
  split at found
  · simp at found
  · next absent =>
    obtain rfl := Option.some.inj found
    exact acyclic.grows_insert new unbound
      (fun member => absent ((Ty.occurs_iff_mem_vars free).2 member)) (withinVar.mem id (by simp [Ty.vars]))
      within

end Subst

/-- **A run doubles the heights once a binding at most.** -/
theorem UnifyRun.grows {first second : Ty} {subst : Subst} {supply : Nat} {outcome : Unified}
    (run : UnifyRun first second subst supply outcome) (regular : subst.Regular)
    (free : first.quantifierFree ∧ second.quantifierFree) {among : Finset Nat} {bound : Nat}
    (fitsFirst : subst.Fits among bound first) (fitsSecond : subst.Fits among bound second)
    {extended : Subst} {left : Nat} (ends : outcome = some (extended, left)) :
    ∃ fewer bindings, subst.Grows extended among fewer bound bindings := by
  induction run generalizing among bound extended left with
  | same =>
    cases ends
    exact ⟨among, 0, .refl _ among bound⟩
  | bindFirst differ =>
    obtain ⟨extended', found, same⟩ := Option.map_eq_some_iff.1 ends
    cases same
    exact ⟨_, 1, regular.acyclic.grows_bindVar?
      (differ.atFirst.unbound regular.acyclic _ (by simp [Ty.vars]))
      (differ.atSecond.unbound regular.acyclic) (differ.quantifierFree regular free).2
      (Ne.symm differ.apart) (differ.atFirst.within regular.acyclic fitsFirst)
      (differ.atSecond.within regular.acyclic fitsSecond) found⟩
  | bindSecond differ notVar =>
    obtain ⟨extended', found, same⟩ := Option.map_eq_some_iff.1 ends
    cases same
    exact ⟨_, 1, regular.acyclic.grows_bindVar?
      (differ.atSecond.unbound regular.acyclic _ (by simp [Ty.vars]))
      (differ.atFirst.unbound regular.acyclic) (differ.quantifierFree regular free).1
      differ.apart (differ.atSecond.within regular.acyclic fitsSecond)
      (differ.atFirst.within regular.acyclic fitsFirst) found⟩
  | bothParts differ parts atSources _ sourcesIH targetsIH =>
    obtain ⟨freeSources, freeTargets⟩ := parts.quantifierFree (differ.quantifierFree regular free)
    obtain ⟨-, fitsSources, fitsTargets⟩ := parts.fits regular.acyclic differ fitsFirst fitsSecond
    obtain ⟨-, regularNext, -⟩ := atSources.exact regular freeSources
    obtain ⟨fewer, bindings, grows⟩ := sourcesIH regular freeSources fitsSources.1 fitsSources.2 rfl
    obtain ⟨fewest, more, grows'⟩ := targetsIH regularNext freeTargets
      (grows.fits _ (Nat.le_refl _) _ fitsTargets.1) (grows.fits _ (Nat.le_refl _) _ fitsTargets.2) ends
    exact ⟨fewest, bindings + more, (grows.trans grows').mono (Nat.sub_le bound 1)⟩
  | firstPart => simp at ends
  | onlyPart differ parts _ ih =>
    have freeInside := parts.quantifierFree (differ.quantifierFree regular free)
    obtain ⟨-, fits₁, fits₂⟩ := parts.fits regular.acyclic differ fitsFirst fitsSecond
    obtain ⟨fewer, bindings, grows⟩ := ih regular freeInside fits₁ fits₂ ends
    exact ⟨fewer, bindings, grows.mono (Nat.sub_le bound 1)⟩
  | instanceOfFirst differ =>
    exact absurd (differ.quantifierFree regular free).1 (by simp [Ty.quantifierFree])
  | instanceOfSecond differ =>
    exact absurd (differ.quantifierFree regular free).2 (by simp [Ty.quantifierFree])
  | giveUp => simp at ends

/-! ## One level of the unifier -/

section Levels

variable {depth supply : Nat} {subst : Subst} {first second left right : Ty}

theorem unifyWithin_bindFirst {id : Nat} (atFirst : subst.apply first = .var id)
    (apart : subst.apply first ≠ subst.apply second) :
    unifyWithin (depth + 1) first second subst supply =
      (subst.bindVar? id (subst.apply second)).map fun extended => (extended, supply) := by
  rw [atFirst] at apart
  simp only [unifyWithin, atFirst, if_neg apart]

theorem unifyWithin_bindSecond {id : Nat} (atSecond : subst.apply second = .var id)
    (notVar : ∀ other, subst.apply first ≠ .var other) :
    unifyWithin (depth + 1) first second subst supply =
      (subst.bindVar? id (subst.apply first)).map fun extended => (extended, supply) := by
  simp only [unifyWithin, atSecond, if_neg (notVar id)]

theorem unifyWithin_inTwo {source₁ target₁ source₂ target₂ : Ty} (atFirst : subst.apply first = left)
    (atSecond : subst.apply second = right) (apart : left ≠ right)
    (parts : InTwo left right source₁ target₁ source₂ target₂) :
    unifyWithin (depth + 1) first second subst supply =
      (unifyWithin depth source₁ source₂ subst supply).bind fun result =>
        unifyWithin depth target₁ target₂ result.1 result.2 := by
  cases parts with
  | arrow =>
    simp only [unifyWithin, atFirst, atSecond, if_neg apart]
    rfl
  | either =>
    simp only [unifyWithin, atFirst, atSecond, if_neg apart]
    rfl

theorem unifyWithin_inOne {inner₁ inner₂ : Ty} (atFirst : subst.apply first = left)
    (atSecond : subst.apply second = right) (apart : left ≠ right) (parts : InOne left right inner₁ inner₂) :
    unifyWithin (depth + 1) first second subst supply = unifyWithin depth inner₁ inner₂ subst supply := by
  cases parts with
  | list => simp only [unifyWithin, atFirst, atSecond, if_neg apart]
  | maybe => simp only [unifyWithin, atFirst, atSecond, if_neg apart]

theorem unifyWithin_clash (atFirst : subst.apply first = left) (atSecond : subst.apply second = right)
    (apart : left ≠ right) (clash : Clash left right) :
    unifyWithin (depth + 1) first second subst supply = none := by
  simp only [unifyWithin, atFirst, atSecond, if_neg apart]
  split
  · exact absurd rfl (clash.firstNotVar _)
  · exact absurd rfl (clash.secondNotVar _)
  · exact absurd (.arrow _ _ _ _) (clash.notInTwo _ _ _ _)
  · exact absurd (.either _ _ _ _) (clash.notInTwo _ _ _ _)
  · exact absurd (.list _ _) (clash.notInOne _ _)
  · exact absurd (.maybe _ _) (clash.notInOne _ _)
  · exact absurd rfl (clash.firstNotQuantified _ _)
  · exact absurd rfl (clash.secondNotQuantified _ _)
  · rfl

end Levels

/-! ## Enough depth -/

/-- One level down the height has gone down by one. -/
theorem enough_below {bound count depth : Nat} (positive : 0 < bound)
    (enough : bound * 2 ^ count < depth + 1) : (bound - 1) * 2 ^ count < depth := by
  have power : 0 < 2 ^ count := Nat.two_pow_pos count
  have apart : bound * 2 ^ count = (bound - 1) * 2 ^ count + 2 ^ count := by
    rw [← Nat.succ_mul, Nat.succ_eq_add_one, Nat.sub_add_cancel positive]
  omega

/-- **A bounded unifier that is deep enough does what a run does.** -/
theorem unifyWithin_run {depth : Nat} {first second : Ty} {subst : Subst} {supply : Nat}
    (regular : subst.Regular) (free : first.quantifierFree ∧ second.quantifierFree)
    {among : Finset Nat} {bound : Nat} (fitsFirst : subst.Fits among bound first)
    (fitsSecond : subst.Fits among bound second) (enough : bound * 2 ^ among.card < depth) :
    UnifyRun first second subst supply (unifyWithin depth first second subst supply) := by
  induction depth generalizing first second subst supply among bound with
  | zero => simp at enough
  | succ depth ih =>
    have atFirst := regular.acyclic.resolves first
    have atSecond := regular.acyclic.resolves second
    by_cases apart : subst.apply first = subst.apply second
    · simp only [unifyWithin, if_pos apart]
      exact .same atFirst (apart ▸ atSecond)
    have differ : subst.Differ first second (subst.apply first) (subst.apply second) :=
      ⟨atFirst, atSecond, apart⟩
    have freeBoth := differ.quantifierFree regular free
    by_cases firstVar : ∃ id, subst.apply first = .var id
    · obtain ⟨id, same⟩ := firstVar
      rw [unifyWithin_bindFirst same apart]
      exact .bindFirst (same ▸ differ)
    have firstNotVar := not_exists.1 firstVar
    by_cases secondVar : ∃ id, subst.apply second = .var id
    · obtain ⟨id, same⟩ := secondVar
      rw [unifyWithin_bindSecond same firstNotVar]
      exact .bindSecond (same ▸ differ) firstNotVar
    by_cases twoParts : ∃ source₁ target₁ source₂ target₂,
        InTwo (subst.apply first) (subst.apply second) source₁ target₁ source₂ target₂
    · obtain ⟨source₁, target₁, source₂, target₂, parts⟩ := twoParts
      obtain ⟨positive, fitsSources, fitsTargets⟩ := parts.fits regular.acyclic differ fitsFirst fitsSecond
      obtain ⟨freeSources, freeTargets⟩ := parts.quantifierFree freeBoth
      have less := enough_below positive enough
      have sourcesRun := @ih _ _ _ supply regular freeSources _ _ fitsSources.1 fitsSources.2 less
      rw [unifyWithin_inTwo rfl rfl apart parts]
      cases ends : unifyWithin depth source₁ source₂ subst supply with
      | none =>
        rw [ends] at sourcesRun
        exact .firstPart differ parts sourcesRun
      | some result =>
        obtain ⟨extended, further⟩ := result
        rw [ends] at sourcesRun
        obtain ⟨-, regularNext, -⟩ := sourcesRun.exact regular freeSources
        obtain ⟨fewer, bindings, grows⟩ :=
          sourcesRun.grows regular freeSources fitsSources.1 fitsSources.2 rfl
        -- each binding made room for the doubling that it may have caused
        have same : (bound - 1) * 2 ^ bindings * 2 ^ fewer.card = (bound - 1) * 2 ^ among.card := by
          rw [← grows.counted, Nat.mul_assoc, ← Nat.pow_add, Nat.add_comm bindings]
        exact .bothParts differ parts sourcesRun (ih regularNext freeTargets
          (grows.fits _ (Nat.le_refl _) _ fitsTargets.1) (grows.fits _ (Nat.le_refl _) _ fitsTargets.2)
          (same ▸ less))
    by_cases oneParts : ∃ inner₁ inner₂,
        InOne (subst.apply first) (subst.apply second) inner₁ inner₂
    · obtain ⟨inner₁, inner₂, parts⟩ := oneParts
      obtain ⟨positive, fits₁, fits₂⟩ := parts.fits regular.acyclic differ fitsFirst fitsSecond
      have less := enough_below positive enough
      rw [unifyWithin_inOne rfl rfl apart parts]
      exact .onlyPart differ parts (ih regular (parts.quantifierFree freeBoth) fits₁ fits₂ less)
    have clash : Clash (subst.apply first) (subst.apply second) := by
      refine ⟨firstNotVar, not_exists.1 secondVar, ?_, ?_, ?_, ?_⟩
      · intro id body same
        simp [same, Ty.quantifierFree] at freeBoth
      · intro id body same
        simp [same, Ty.quantifierFree] at freeBoth
      · intro source₁ target₁ source₂ target₂ parts
        exact twoParts ⟨source₁, target₁, source₂, target₂, parts⟩
      · intro inner₁ inner₂ parts
        exact oneParts ⟨inner₁, inner₂, parts⟩
    rw [unifyWithin_clash rfl rfl apart clash]
    exact .giveUp differ clash

/-- **The depth of the unifier suffices.** -/
theorem Strategy.unify_run {first second : Ty} {subst : Subst} (supply : Nat) (regular : subst.Regular)
    (free : first.quantifierFree ∧ second.quantifierFree) :
    UnifyRun first second subst supply (Strategy.hindleyMilner.unify first second subst supply) := by
  let among := ((subst.apply first).vars ++ (subst.apply second).vars).toFinset
  let bound := (subst.apply first).height + (subst.apply second).height
  refine @unifyWithin_run _ first second subst supply regular free among bound ⟨?_, ?_⟩ ⟨?_, ?_⟩ ?_
  · exact Nat.le_add_right _ _
  · intro id member
    exact List.mem_toFinset.2 (List.mem_append_left _ member)
  · exact Nat.le_add_left _ _
  · intro id member
    exact List.mem_toFinset.2 (List.mem_append_right _ member)
  · have few : among.card ≤ (subst.apply first).vars.length + (subst.apply second).vars.length := by
      have := List.toFinset_card_le ((subst.apply first).vars ++ (subst.apply second).vars)
      rwa [List.length_append] at this
    have small : bound + among.card ≤ (subst.apply first).size + (subst.apply second).size := by
      have := (subst.apply first).height_add_length_vars_le_size
      have := (subst.apply second).height_add_length_vars_le_size
      omega
    have low : bound < 2 ^ bound := Nat.lt_two_pow_self
    calc bound * 2 ^ among.card
        < 2 ^ bound * 2 ^ among.card := Nat.mul_lt_mul_of_pos_right low (Nat.two_pow_pos _)
      _ = 2 ^ (bound + among.card) := (Nat.pow_add 2 bound among.card).symm
      _ ≤ 2 ^ ((subst.apply first).size + (subst.apply second).size + 1) :=
        Nat.pow_le_pow_right (Nat.zero_lt_two) (Nat.le_succ_of_le small)

end TermSpace
