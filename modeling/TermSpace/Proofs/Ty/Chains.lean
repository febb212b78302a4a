import Mathlib.Data.Finset.Card
import Mathlib.Logic.Relation
import TermSpace.Proofs.Inference.Conservative
import TermSpace.Proofs.Ty.MostGeneral
import TermSpace.Proofs.Ty.QuantifiedUnification

/-!
# Chains of bindings

A binding leads from its variable to the variables that its type mentions, and from there further bindings
may lead on.  A substitution has no circle if no such chain comes back to where it began (`Subst.NoCircle`).
This is what ranks along the bindings amount to (`Subst.acyclic_iff_noCircle`): the bound variables that
can be reached from a variable become fewer along a chain.

The occurs check looks at one resolved type at a time.  That is enough: unification comes to a substitution
again and again, at its end and at that of all unification inside it (`UnificationComesTo`), and none of
these has a circle, whether the strategy is the simple one or not (`Strategy.solve_noCircle`).  So
resolving a type comes to an end each time, mentions no bound variable, and has nothing left to resolve.
-/

namespace TermSpace

set_option autoImplicit false

namespace Subst

/-- A binding leads from its variable to the variables of its type. -/
def LeadsTo (subst : Subst) (id other : Nat) : Prop :=
  ∃ ty, subst.get? id = some ty ∧ other ∈ ty.vars

/-- No chain of bindings leads from a variable back to it. -/
def NoCircle (subst : Subst) : Prop := ∀ id, ¬ Relation.TransGen subst.LeadsTo id id

variable {subst : Subst}

theorem Acyclic.noCircle (acyclic : subst.Acyclic) : subst.NoCircle := by
  obtain ⟨rank, -, descends⟩ := acyclic
  have down : ∀ id other, Relation.TransGen subst.LeadsTo id other → rank other < rank id := by
    intro id other chain
    induction chain with
    | single leads =>
      obtain ⟨ty, found, member⟩ := leads
      exact (descends _ ty found).2 _ member
    | tail _ leads ih =>
      obtain ⟨ty, found, member⟩ := leads
      exact Nat.lt_trans ((descends _ ty found).2 _ member) ih
  intro id circle
  exact Nat.lt_irrefl _ (down id id circle)

/-- The bound variables that can be reached become fewer along the bindings, so their number is a rank. -/
theorem NoCircle.acyclic (noCircle : subst.NoCircle) : subst.Acyclic := by
  classical
  let reachable (id : Nat) : Finset Nat :=
    subst.keys.toFinset.filter fun key => Relation.ReflTransGen subst.LeadsTo id key
  refine ⟨fun id => (reachable id).card, fun id => ?_, fun id ty found => ?_⟩
  · calc (reachable id).card
        ≤ subst.keys.toFinset.card := Finset.card_filter_le _ _
      _ ≤ subst.keys.length := subst.keys.toFinset_card_le
      _ = subst.size := List.length_map _
  · have itself : id ∈ reachable id :=
      Finset.mem_filter.2 ⟨List.mem_toFinset.2 (Dict.mem_keys_of_get? found), .refl⟩
    refine ⟨Finset.card_pos.2 ⟨id, itself⟩, fun other member => Finset.card_lt_card ?_⟩
    have leads : subst.LeadsTo id other := ⟨ty, found, member⟩
    refine (Finset.ssubset_iff_of_subset fun key inside => ?_).2 ⟨id, itself, fun back => ?_⟩
    · obtain ⟨isKey, chain⟩ := Finset.mem_filter.1 inside
      exact Finset.mem_filter.2 ⟨isKey, chain.head leads⟩
    · exact noCircle id (.head' leads (Finset.mem_filter.1 back).2)

/-- **Ranks are the absence of circles.** -/
theorem acyclic_iff_noCircle : subst.Acyclic ↔ subst.NoCircle := ⟨Acyclic.noCircle, NoCircle.acyclic⟩

end Subst

/-! ## What unification comes to -/

/-- The substitutions that Hindley-Milner unification comes to: at its own end, and on its way where it
unifies parts or goes on with an instance. -/
inductive UnificationComesTo :
    (depth : Nat) → (first second : Ty) → Subst → (supply : Nat) → (reached : Subst) → Prop where
  | ends {depth supply left : Nat} {first second : Ty} {subst reached : Subst}
      (unifies : unifyWithin depth first second subst supply = some (reached, left)) :
      UnificationComesTo depth first second subst supply reached
  | atSources {depth supply : Nat} {first second source₁ target₁ source₂ target₂ : Ty}
      {subst reached : Subst} (apart : subst.apply first ≠ subst.apply second)
      (parts : InTwo (subst.apply first) (subst.apply second) source₁ target₁ source₂ target₂)
      (inside : UnificationComesTo depth source₁ source₂ subst supply reached) :
      UnificationComesTo (depth + 1) first second subst supply reached
  | atTargets {depth supply left : Nat} {first second source₁ target₁ source₂ target₂ : Ty}
      {subst extended reached : Subst} (apart : subst.apply first ≠ subst.apply second)
      (parts : InTwo (subst.apply first) (subst.apply second) source₁ target₁ source₂ target₂)
      (sources : unifyWithin depth source₁ source₂ subst supply = some (extended, left))
      (inside : UnificationComesTo depth target₁ target₂ extended left reached) :
      UnificationComesTo (depth + 1) first second subst supply reached
  | atOnlyPart {depth supply : Nat} {first second inner₁ inner₂ : Ty} {subst reached : Subst}
      (apart : subst.apply first ≠ subst.apply second)
      (parts : InOne (subst.apply first) (subst.apply second) inner₁ inner₂)
      (inside : UnificationComesTo depth inner₁ inner₂ subst supply reached) :
      UnificationComesTo (depth + 1) first second subst supply reached
  | atInstanceOfFirst {depth supply id : Nat} {first second body : Ty} {subst reached : Subst}
      (apart : subst.apply first ≠ subst.apply second)
      (atFirst : subst.apply first = .quantified id body)
      (notVar : ∀ other, subst.apply second ≠ .var other)
      (inside : UnificationComesTo depth ((Ty.quantified id body).instantiate supply).1
        (subst.apply second) subst ((Ty.quantified id body).instantiate supply).2 reached) :
      UnificationComesTo (depth + 1) first second subst supply reached
  | atInstanceOfSecond {depth supply id : Nat} {first second body : Ty} {subst reached : Subst}
      (atSecond : subst.apply second = .quantified id body)
      (notVar : ∀ other, subst.apply first ≠ .var other)
      (notQuantified : ∀ other inner, subst.apply first ≠ .quantified other inner)
      (inside : UnificationComesTo depth ((Ty.quantified id body).instantiate supply).1
        (subst.apply first) subst ((Ty.quantified id body).instantiate supply).2 reached) :
      UnificationComesTo (depth + 1) first second subst supply reached

/-- **Wherever unification comes, the substitution stays in scope,** and so without circles. -/
theorem UnificationComesTo.inScope {reserved : Nat → Prop} {depth supply : Nat} {first second : Ty}
    {subst reached : Subst} (comes : UnificationComesTo depth first second subst supply reached)
    (inScope : subst.InScope reserved) (fresh : ∀ id, reserved id → id < supply)
    (inFirst : first.Scoped reserved) (inSecond : second.Scoped reserved) : reached.InScope reserved := by
  induction comes with
  | ends unifies => exact (unitesAt reserved _ inScope fresh inFirst inSecond unifies).inScope
  | atSources _ parts _ ih =>
    obtain ⟨inSources, -⟩ := parts.inScope (inScope.apply inFirst) (inScope.apply inSecond)
    exact ih inScope fresh inSources.1 inSources.2
  | atTargets _ parts sources _ ih =>
    obtain ⟨inSources, inTargets⟩ := parts.inScope (inScope.apply inFirst) (inScope.apply inSecond)
    have united := unitesAt reserved _ inScope fresh inSources.1 inSources.2 sources
    exact ih united.inScope (fun id kept => Nat.lt_of_lt_of_le (fresh id kept) united.supply_le)
      inTargets.1 inTargets.2
  | atOnlyPart _ parts _ ih =>
    obtain ⟨inInner₁, inInner₂⟩ := parts.inScope (inScope.apply inFirst) (inScope.apply inSecond)
    exact ih inScope fresh inInner₁ inInner₂
  | atInstanceOfFirst _ atFirst _ _ ih =>
    have inQuantified := atFirst ▸ inScope.apply inFirst
    exact ih inScope (fun id kept => Nat.lt_of_lt_of_le (fresh id kept) (Ty.le_instantiate _ _))
      (inQuantified.instantiate fresh) (inScope.apply inSecond)
  | atInstanceOfSecond atSecond _ _ _ ih =>
    have inQuantified := atSecond ▸ inScope.apply inSecond
    exact ih inScope (fun id kept => Nat.lt_of_lt_of_le (fresh id kept) (Ty.le_instantiate _ _))
      (inQuantified.instantiate fresh) (inScope.apply inFirst)

/-! ## What solving comes to -/

namespace Strategy

/-- The substitutions that unification by a strategy comes to. The simple one unifies nothing on its way. -/
def ComesTo (strategy : Strategy) (first second : Ty) (subst : Subst) (supply : Nat) (reached : Subst) :
    Prop :=
  match strategy with
  | .hindleyMilner =>
    UnificationComesTo (unificationDepth (subst.apply first) (subst.apply second)) first second subst supply
      reached
  | .simple => ∃ left, simple.unify first second subst supply = some (reached, left)

theorem comesTo_of_unify {strategy : Strategy} {first second : Ty} {subst reached : Subst}
    {supply left : Nat} (unifies : strategy.unify first second subst supply = some (reached, left)) :
    strategy.ComesTo first second subst supply reached := by
  cases strategy with
  | hindleyMilner => exact .ends unifies
  | simple => exact ⟨left, unifies⟩

/-- The substitutions that solving comes to: those that unification comes to at one of the constraints,
under the substitution that the ones before it have led to. -/
inductive SolvingComesTo (strategy : Strategy) :
    Subst → (supply : Nat) → List Constraint → (reached : Subst) → Prop where
  | atFirst {subst reached : Subst} {supply : Nat} {wanted : Constraint} {rest : List Constraint}
      (comes : strategy.ComesTo wanted.left wanted.right subst supply reached) :
      SolvingComesTo strategy subst supply (wanted :: rest) reached
  | later {subst extended reached : Subst} {supply left : Nat} {wanted : Constraint}
      {rest : List Constraint}
      (meets : strategy.unify wanted.left wanted.right subst supply = some (extended, left))
      (comes : SolvingComesTo strategy extended left rest reached) :
      SolvingComesTo strategy subst supply (wanted :: rest) reached

/-- Solving ends where it began or with a substitution that it has come to. -/
theorem solvingComesTo_of_solveFrom {strategy : Strategy} {subst solution : Subst} {supply left : Nat}
    {constraints : List Constraint}
    (solves : strategy.solveFrom subst supply constraints = .ok (solution, left)) :
    solution = subst ∨ strategy.SolvingComesTo subst supply constraints solution := by
  induction constraints generalizing subst supply with
  | nil =>
    cases solves
    exact .inl rfl
  | cons wanted rest ih =>
    unfold solveFrom at solves
    cases meets : strategy.unify wanted.left wanted.right subst supply with
    | none => simp [meets] at solves
    | some result =>
      obtain ⟨extended, further⟩ := result
      rw [meets] at solves
      rcases ih solves with rfl | comes
      · exact .inr (.atFirst (comesTo_of_unify meets))
      · exact .inr (.later meets comes)

section Scopes

variable {strategy : Strategy} {reserved : Nat → Prop} {subst reached : Subst} {supply : Nat}

/-- Types in scope that unify by a strategy meet. -/
theorem unites_of_unify {first second : Ty} {left : Nat} (inScope : subst.InScope reserved)
    (fresh : ∀ id, reserved id → id < supply) (inFirst : first.Scoped reserved)
    (inSecond : second.Scoped reserved)
    (unifies : strategy.unify first second subst supply = some (reached, left)) :
    Unites reserved first second subst supply reached left := by
  cases strategy with
  | hindleyMilner => exact unitesAt reserved _ inScope fresh inFirst inSecond unifies
  | simple =>
    exact unitesAt reserved _ inScope fresh inFirst inSecond (unify_hindleyMilner_of_simple unifies)

theorem ComesTo.inScope {first second : Ty} (comes : strategy.ComesTo first second subst supply reached)
    (inScope : subst.InScope reserved) (fresh : ∀ id, reserved id → id < supply)
    (inFirst : first.Scoped reserved) (inSecond : second.Scoped reserved) : reached.InScope reserved := by
  cases strategy with
  | hindleyMilner => exact UnificationComesTo.inScope comes inScope fresh inFirst inSecond
  | simple =>
    obtain ⟨left, unifies⟩ := comes
    exact (unites_of_unify inScope fresh inFirst inSecond unifies).inScope

/-- **Wherever solving comes, the substitution stays in scope.** -/
theorem SolvingComesTo.inScope {constraints : List Constraint}
    (comes : strategy.SolvingComesTo subst supply constraints reached) (inScope : subst.InScope reserved)
    (fresh : ∀ id, reserved id → id < supply)
    (inScopes : ∀ wanted ∈ constraints, wanted.left.Scoped reserved ∧ wanted.right.Scoped reserved) :
    reached.InScope reserved := by
  induction comes with
  | atFirst comes =>
    obtain ⟨inLeft, inRight⟩ := (List.forall_mem_cons.1 inScopes).1
    exact comes.inScope inScope fresh inLeft inRight
  | later meets _ ih =>
    obtain ⟨⟨inLeft, inRight⟩, inScopesLater⟩ := List.forall_mem_cons.1 inScopes
    have united := unites_of_unify inScope fresh inLeft inRight meets
    exact ih united.inScope (fun id kept => Nat.lt_of_lt_of_le (fresh id kept) united.supply_le)
      inScopesLater

end Scopes

/-! ## No circles -/

/-- **Solving never makes a circle.** Whatever the strategy, take a substitution that solving constraints
without quantifiers comes to, at the end of a unification or in the midst of it, or ends with.  No chain of its
bindings leads from a variable back to it.  So resolving any type by it comes to an end, what this gives
mentions no bound variable, and resolving it again changes nothing. -/
theorem solve_noCircle (strategy : Strategy) (constraints : List Constraint) (supply : Nat)
    (free : ∀ wanted ∈ constraints, wanted.QuantifierFree) (reached : Subst)
    (comes : strategy.SolvingComesTo ∅ supply constraints reached ∨
      ∃ left, strategy.solve constraints supply = .ok (reached, left)) :
    reached.NoCircle ∧ ∀ ty : Ty,
      (∀ resolved, reached.Resolves ty resolved ↔ resolved = reached.apply ty) ∧
      (∀ id ∈ (reached.apply ty).vars, reached.get? id = none) ∧
      reached.apply (reached.apply ty) = reached.apply ty := by
  have acyclic : reached.Acyclic := by
    have inScopes : ∀ wanted ∈ constraints,
        wanted.left.Scoped (fun _ => False) ∧ wanted.right.Scoped (fun _ => False) := fun wanted member =>
      ⟨Ty.scoped_of_quantifierFree (free wanted member).1,
        Ty.scoped_of_quantifierFree (free wanted member).2⟩
    rcases comes with comes | ⟨left, solves⟩
    · exact (comes.inScope .empty (by simp) inScopes).acyclic
    · rcases solvingComesTo_of_solveFrom solves with rfl | comes
      · exact Subst.acyclic_empty
      · exact (comes.inScope .empty (by simp) inScopes).acyclic
  refine ⟨acyclic.noCircle, fun ty => ⟨fun resolved => ⟨fun resolves => ?_, ?_⟩, ?_, ?_⟩⟩
  · exact resolves.eq_apply acyclic
  · rintro rfl
    exact acyclic.resolves ty
  · exact fun id member => acyclic.unbound_of_mem_vars member
  · exact Subst.apply_eq_self fun id member => acyclic.unbound_of_mem_vars member

/-- A constraint whose sides bind `'t0` to a type around `'t1`, and then `'t1` to one around `'t2`. -/
def chained : List Constraint :=
  [⟨.arrow (.var 0) (.var 1), .arrow (.list (.var 1)) (.maybe (.var 2)), .atom "a"⟩]

/-- In the midst of unification `'t0` leads to `'t1` alone, and at the end to `'t2` by way of it. -/
theorem solve_noCircle_chained :
    (∀ wanted ∈ chained, wanted.QuantifierFree) ∧
    ∃ midst solution, hindleyMilner.SolvingComesTo ∅ 3 chained midst ∧
      hindleyMilner.solve chained 3 = .ok (solution, 3) ∧
      midst.apply (.var 0) = .list (.var 1) ∧ solution.apply (.var 0) = .list (.maybe (.var 2)) ∧
      solution.LeadsTo 0 1 ∧ solution.LeadsTo 1 2 ∧ midst.NoCircle ∧ solution.NoCircle := by
  have free : ∀ wanted ∈ chained, wanted.QuantifierFree := by
    simp [chained, Constraint.QuantifierFree, Ty.quantifierFree]
  have comes : hindleyMilner.SolvingComesTo ∅ 3 chained (Dict.insert ∅ 0 (.list (.var 1))) :=
    .atFirst (.atSources (by decide) (.arrow _ _ _ _) (.ends rfl))
  have solves : hindleyMilner.solve chained 3 =
      .ok (Dict.insert (Dict.insert ∅ 0 (.list (.var 1))) 1 (.maybe (.var 2)), 3) := rfl
  exact ⟨free, _, _, comes, solves, rfl, rfl, ⟨_, rfl, by decide⟩, ⟨_, rfl, by decide⟩,
    (solve_noCircle _ _ _ free _ (.inl comes)).1, (solve_noCircle _ _ _ free _ (.inr ⟨_, solves⟩)).1⟩

end Strategy

end TermSpace
