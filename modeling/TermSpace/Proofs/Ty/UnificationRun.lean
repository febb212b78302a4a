import TermSpace.Proofs.Ty.Resolution
import TermSpace.Ty.Unification

/-!
# Runs of unification

The unifier of the program goes as deep as the structure of its types asks for.  A run (`UnifyRun`) says
what it does there by rules alone, without a bound on the depth: it resolves both types, stops if they are
equal, binds a variable, goes into the parts of two types of the same form, replaces a quantified type by
an instance, or gives up.  A run is a finite tree, so having one means that unification terminates.

Between types without quantifiers a run is *exact*.  If it ends well, then the assignments that solve the
extended substitution are those that solve the given one and make the two types equal.  If it gives up, there are
no such assignments (`UnifyRun.exact`).
-/

namespace TermSpace

set_option autoImplicit false

/-! ## Forms of two types -/

/-- Two types of the same form with two parts each. -/
inductive InTwo : (first second source₁ target₁ source₂ target₂ : Ty) → Prop where
  | arrow (source₁ target₁ source₂ target₂ : Ty) :
      InTwo (.arrow source₁ target₁) (.arrow source₂ target₂) source₁ target₁ source₂ target₂
  | either (left₁ right₁ left₂ right₂ : Ty) :
      InTwo (.either left₁ right₁) (.either left₂ right₂) left₁ right₁ left₂ right₂

/-- Two types of the same form with one part each. -/
inductive InOne : (first second inner₁ inner₂ : Ty) → Prop where
  | list (element₁ element₂ : Ty) : InOne (.list element₁) (.list element₂) element₁ element₂
  | maybe (element₁ element₂ : Ty) : InOne (.maybe element₁) (.maybe element₂) element₁ element₂

/-- Two types that have no form in common and no variable or quantifier to mend this. -/
structure Clash (first second : Ty) : Prop where
  firstNotVar : ∀ id, first ≠ .var id
  secondNotVar : ∀ id, second ≠ .var id
  firstNotQuantified : ∀ id body, first ≠ .quantified id body
  secondNotQuantified : ∀ id body, second ≠ .quantified id body
  notInTwo : ∀ source₁ target₁ source₂ target₂, ¬ InTwo first second source₁ target₁ source₂ target₂
  notInOne : ∀ inner₁ inner₂, ¬ InOne first second inner₁ inner₂

/-- Two types resolve to different ones. -/
structure Subst.Differ (subst : Subst) (first second left right : Ty) : Prop where
  atFirst : subst.Resolves first left
  atSecond : subst.Resolves second right
  apart : left ≠ right

/-! ## Runs -/

/-- What unification does, and how it ends. -/
inductive UnifyRun : (first second : Ty) → Subst → (supply : Nat) → (outcome : Unified) → Prop where
  | same {first second resolved : Ty} {subst : Subst} {supply : Nat}
      (atFirst : subst.Resolves first resolved) (atSecond : subst.Resolves second resolved) :
      UnifyRun first second subst supply (some (subst, supply))
  | bindFirst {first second right : Ty} {id : Nat} {subst : Subst} {supply : Nat}
      (differ : subst.Differ first second (.var id) right) :
      UnifyRun first second subst supply
        ((subst.bindVar? id right).map fun extended => (extended, supply))
  | bindSecond {first second left : Ty} {id : Nat} {subst : Subst} {supply : Nat}
      (differ : subst.Differ first second left (.var id)) (notVar : ∀ other, left ≠ .var other) :
      UnifyRun first second subst supply
        ((subst.bindVar? id left).map fun extended => (extended, supply))
  | bothParts {first second left right source₁ target₁ source₂ target₂ : Ty} {subst extended : Subst}
      {supply further : Nat} {outcome : Unified} (differ : subst.Differ first second left right)
      (parts : InTwo left right source₁ target₁ source₂ target₂)
      (atSources : UnifyRun source₁ source₂ subst supply (some (extended, further)))
      (atTargets : UnifyRun target₁ target₂ extended further outcome) :
      UnifyRun first second subst supply outcome
  | firstPart {first second left right source₁ target₁ source₂ target₂ : Ty} {subst : Subst}
      {supply : Nat} (differ : subst.Differ first second left right)
      (parts : InTwo left right source₁ target₁ source₂ target₂)
      (atSources : UnifyRun source₁ source₂ subst supply none) :
      UnifyRun first second subst supply none
  | onlyPart {first second left right inner₁ inner₂ : Ty} {subst : Subst} {supply : Nat}
      {outcome : Unified} (differ : subst.Differ first second left right)
      (parts : InOne left right inner₁ inner₂) (inside : UnifyRun inner₁ inner₂ subst supply outcome) :
      UnifyRun first second subst supply outcome
  | instanceOfFirst {first second body right : Ty} {id : Nat} {subst : Subst} {supply : Nat}
      {outcome : Unified} (differ : subst.Differ first second (.quantified id body) right)
      (notVar : ∀ other, right ≠ .var other)
      (inside : UnifyRun ((Ty.quantified id body).instantiate supply).1 right subst
        ((Ty.quantified id body).instantiate supply).2 outcome) :
      UnifyRun first second subst supply outcome
  | instanceOfSecond {first second left body : Ty} {id : Nat} {subst : Subst} {supply : Nat}
      {outcome : Unified} (differ : subst.Differ first second left (.quantified id body))
      (notVar : ∀ other, left ≠ .var other) (notQuantified : ∀ other inner, left ≠ .quantified other inner)
      (inside : UnifyRun ((Ty.quantified id body).instantiate supply).1 left subst
        ((Ty.quantified id body).instantiate supply).2 outcome) :
      UnifyRun first second subst supply outcome
  | giveUp {first second left right : Ty} {subst : Subst} {supply : Nat}
      (differ : subst.Differ first second left right) (clash : Clash left right) :
      UnifyRun first second subst supply none

/-! ## Forms under assignments -/

section Forms

variable {first second source₁ target₁ source₂ target₂ inner₁ inner₂ : Ty}

theorem InTwo.under_eq_iff (parts : InTwo first second source₁ target₁ source₂ target₂)
    (assignment : Nat → Ty) :
    first.under assignment = second.under assignment ↔
      source₁.under assignment = source₂.under assignment ∧
        target₁.under assignment = target₂.under assignment := by
  cases parts with
  | arrow => simp only [Ty.under_arrow, Ty.arrow.injEq]
  | either => simp only [Ty.under_either, Ty.either.injEq]

theorem InOne.under_eq_iff (parts : InOne first second inner₁ inner₂) (assignment : Nat → Ty) :
    first.under assignment = second.under assignment ↔
      inner₁.under assignment = inner₂.under assignment := by
  cases parts with
  | list => simp only [Ty.under_list, Ty.list.injEq]
  | maybe => simp only [Ty.under_maybe, Ty.maybe.injEq]

theorem Clash.under_ne (clash : Clash first second) (apart : first ≠ second) (assignment : Nat → Ty) :
    first.under assignment ≠ second.under assignment := by
  intro same
  cases first with
  | var id => exact clash.firstNotVar id rfl
  | quantified id body => exact clash.firstNotQuantified id body rfl
  | base name =>
    cases second with
    | var id => exact clash.secondNotVar id rfl
    | base other => exact apart same
    | _ => simp at same
  | vector length =>
    cases second with
    | var id => exact clash.secondNotVar id rfl
    | vector other => exact apart same
    | _ => simp at same
  | arrow source target =>
    cases second with
    | var id => exact clash.secondNotVar id rfl
    | arrow source' target' => exact clash.notInTwo _ _ _ _ (.arrow source target source' target')
    | _ => simp at same
  | either left right =>
    cases second with
    | var id => exact clash.secondNotVar id rfl
    | either left' right' => exact clash.notInTwo _ _ _ _ (.either left right left' right')
    | _ => simp at same
  | list element =>
    cases second with
    | var id => exact clash.secondNotVar id rfl
    | list element' => exact clash.notInOne _ _ (.list element element')
    | _ => simp at same
  | maybe element =>
    cases second with
    | var id => exact clash.secondNotVar id rfl
    | maybe element' => exact clash.notInOne _ _ (.maybe element element')
    | _ => simp at same

theorem InTwo.quantifierFree (parts : InTwo first second source₁ target₁ source₂ target₂)
    (free : first.quantifierFree ∧ second.quantifierFree) :
    (source₁.quantifierFree ∧ source₂.quantifierFree) ∧
      target₁.quantifierFree ∧ target₂.quantifierFree := by
  cases parts with
  | arrow =>
    have inFirst := Ty.quantifierFree_arrow.1 free.1
    have inSecond := Ty.quantifierFree_arrow.1 free.2
    exact ⟨⟨inFirst.1, inSecond.1⟩, inFirst.2, inSecond.2⟩
  | either =>
    have inFirst := Ty.quantifierFree_either.1 free.1
    have inSecond := Ty.quantifierFree_either.1 free.2
    exact ⟨⟨inFirst.1, inSecond.1⟩, inFirst.2, inSecond.2⟩

theorem InOne.quantifierFree (parts : InOne first second inner₁ inner₂)
    (free : first.quantifierFree ∧ second.quantifierFree) :
    inner₁.quantifierFree ∧ inner₂.quantifierFree := by
  cases parts with
  | list => exact free
  | maybe => exact free

end Forms

/-! ## Exactness -/

/-- A substitution without circles and without quantifiers. -/
structure Subst.Regular (subst : Subst) : Prop where
  acyclic : subst.Acyclic
  quantifierFree : subst.QuantifierFree

theorem Subst.regular_empty : Subst.Regular ∅ := ⟨acyclic_empty, quantifierFree_empty⟩

/-- The outcome of unification says exactly which assignments solve a substitution and make two types equal.
Only quantifiers draw on the supply, so it stays. -/
def ExactOutcome (first second : Ty) (subst : Subst) (supply : Nat) : Unified → Prop
  | some (extended, left) =>
    left = supply ∧ extended.Regular ∧ ∀ assignment, extended.SolvedBy assignment ↔
      subst.SolvedBy assignment ∧ first.under assignment = second.under assignment
  | none => ∀ assignment, subst.SolvedBy assignment → first.under assignment ≠ second.under assignment

theorem Subst.Resolves.unbound {subst : Subst} {ty resolved : Ty} (resolves : subst.Resolves ty resolved)
    (acyclic : subst.Acyclic) : ∀ id ∈ resolved.vars, subst.get? id = none := by
  intro id member
  rw [resolves.eq_apply acyclic] at member
  exact acyclic.unbound_of_mem_vars member

theorem Subst.Differ.quantifierFree {subst : Subst} {first second left right : Ty}
    (differ : subst.Differ first second left right) (regular : subst.Regular)
    (free : first.quantifierFree ∧ second.quantifierFree) :
    left.quantifierFree ∧ right.quantifierFree := by
  rw [differ.atFirst.eq_apply regular.acyclic, differ.atSecond.eq_apply regular.acyclic]
  exact ⟨regular.quantifierFree.apply free.1, regular.quantifierFree.apply free.2⟩

/-- Two types may be resolved before they are unified. -/
theorem Subst.Differ.exactOutcome {subst : Subst} (acyclic : subst.Acyclic)
    {first second left right : Ty} (differ : subst.Differ first second left right) {supply : Nat}
    {outcome : Unified} (exact : ExactOutcome left right subst supply outcome) :
    ExactOutcome first second subst supply outcome := by
  have equations : ∀ assignment, subst.SolvedBy assignment →
      (left.under assignment = right.under assignment ↔
        first.under assignment = second.under assignment) := by
    intro assignment solved
    rw [differ.atFirst.eq_apply acyclic, differ.atSecond.eq_apply acyclic, solved.under_apply,
      solved.under_apply]
  cases outcome with
  | none =>
    intro assignment solved same
    exact exact assignment solved ((equations assignment solved).2 same)
  | some result =>
    obtain ⟨same, regular, solutions⟩ := exact
    refine ⟨same, regular, fun assignment => (solutions assignment).trans ?_⟩
    exact and_congr_right (equations assignment)

theorem ExactOutcome.symm {first second : Ty} {subst : Subst} {supply : Nat} {outcome : Unified}
    (exact : ExactOutcome first second subst supply outcome) :
    ExactOutcome second first subst supply outcome := by
  cases outcome with
  | none =>
    intro assignment solved same
    exact exact assignment solved same.symm
  | some result =>
    obtain ⟨same, regular, solutions⟩ := exact
    refine ⟨same, regular, fun assignment => (solutions assignment).trans ?_⟩
    exact and_congr_right fun _ => eq_comm

/-- **Binding a variable is exact.** -/
theorem Subst.Regular.exactOutcome_bindVar? {subst : Subst} (regular : subst.Regular) {id : Nat} {ty : Ty}
    (new : subst.get? id = none) (unbound : ∀ other ∈ ty.vars, subst.get? other = none)
    (free : ty.quantifierFree) (apart : ty ≠ .var id) (supply : Nat) :
    ExactOutcome (.var id) ty subst supply
      ((subst.bindVar? id ty).map fun extended => (extended, supply)) := by
  unfold bindVar?
  rw [if_neg apart]
  split
  · next occurs =>
    intro assignment _
    exact Ty.under_ne_of_mem_vars ((Ty.occurs_iff_mem_vars free).1 occurs) apart assignment
  · next absent =>
    have outside : id ∉ ty.vars := fun member => absent ((Ty.occurs_iff_mem_vars free).2 member)
    exact ⟨rfl, ⟨regular.acyclic.insert new unbound outside, regular.quantifierFree.insert free⟩,
      fun assignment => solvedBy_insert new⟩

/-- **Exactness.** -/
theorem UnifyRun.exact {first second : Ty} {subst : Subst} {supply : Nat} {outcome : Unified}
    (run : UnifyRun first second subst supply outcome) (regular : subst.Regular)
    (free : first.quantifierFree ∧ second.quantifierFree) :
    ExactOutcome first second subst supply outcome := by
  induction run with
  | same atFirst atSecond =>
    refine ⟨rfl, regular, fun assignment => ⟨fun solved => ⟨solved, ?_⟩, fun both => both.1⟩⟩
    have same := (atFirst.eq_apply regular.acyclic).symm.trans (atSecond.eq_apply regular.acyclic)
    rw [← solved.under_apply, same, solved.under_apply]
  | bindFirst differ =>
    refine differ.exactOutcome regular.acyclic ?_
    exact regular.exactOutcome_bindVar? (differ.atFirst.unbound regular.acyclic _ (by simp [Ty.vars]))
      (differ.atSecond.unbound regular.acyclic) (differ.quantifierFree regular free).2 (Ne.symm differ.apart) _
  | bindSecond differ notVar =>
    refine differ.exactOutcome regular.acyclic (ExactOutcome.symm ?_)
    exact regular.exactOutcome_bindVar? (differ.atSecond.unbound regular.acyclic _ (by simp [Ty.vars]))
      (differ.atFirst.unbound regular.acyclic) (differ.quantifierFree regular free).1 differ.apart _
  | @bothParts _ _ _ _ _ _ _ _ _ _ _ _ outcome differ parts _ _ sourcesIH targetsIH =>
    obtain ⟨freeSources, freeTargets⟩ := parts.quantifierFree (differ.quantifierFree regular free)
    obtain ⟨rfl, regularNext, atSources⟩ := sourcesIH regular freeSources
    have atTargets := targetsIH regularNext freeTargets
    refine differ.exactOutcome regular.acyclic ?_
    cases outcome with
    | none =>
      intro assignment solved same
      have both := (parts.under_eq_iff assignment).1 same
      exact atTargets assignment ((atSources assignment).2 ⟨solved, both.1⟩) both.2
    | some result =>
      obtain ⟨same, regularLast, atTargets⟩ := atTargets
      refine ⟨same, regularLast, fun assignment => ?_⟩
      rw [atTargets, atSources, parts.under_eq_iff, and_assoc]
  | firstPart differ parts _ ih =>
    obtain ⟨freeSources, -⟩ := parts.quantifierFree (differ.quantifierFree regular free)
    refine differ.exactOutcome regular.acyclic ?_
    intro assignment solved same
    exact ih regular freeSources assignment solved ((parts.under_eq_iff assignment).1 same).1
  | @onlyPart _ _ _ _ _ _ _ _ outcome differ parts _ ih =>
    have inside := ih regular (parts.quantifierFree (differ.quantifierFree regular free))
    refine differ.exactOutcome regular.acyclic ?_
    cases outcome with
    | none =>
      intro assignment solved same
      exact inside assignment solved ((parts.under_eq_iff assignment).1 same)
    | some result =>
      obtain ⟨same, regularLast, solutions⟩ := inside
      refine ⟨same, regularLast, fun assignment => ?_⟩
      rw [solutions, parts.under_eq_iff]
  | instanceOfFirst differ =>
    simpa [Ty.quantifierFree] using (differ.quantifierFree regular free).1
  | instanceOfSecond differ =>
    simpa [Ty.quantifierFree] using (differ.quantifierFree regular free).2
  | giveUp differ clash =>
    refine differ.exactOutcome regular.acyclic ?_
    intro assignment _
    exact clash.under_ne differ.apart assignment

end TermSpace
