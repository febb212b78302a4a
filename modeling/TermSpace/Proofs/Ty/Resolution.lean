import Mathlib.Logic.Function.Basic
import TermSpace.Proofs.Ty.Assignment

/-!
# Resolution

Bindings may lead on to further bindings, so resolving a type can go in circles.  It does not when the
variables have ranks that descend along the bindings (`Acyclic`), and a binding admitted by an occurs
check keeps it so (`Acyclic.insert`).

Under an acyclic substitution resolution comes to an end on every type, by way of rules that count no
rounds (`Resolves`), and the end is what application gives (`Acyclic.resolves`, `Resolves.eq_apply`).
Application then amounts to an assignment, `image`: the most general one that solves the substitution
when its bindings are read as equations.
-/

namespace TermSpace

set_option autoImplicit false

theorem Ty.replace_eq_under (image : Nat → Option Ty) (ty : Ty) :
    ty.replace image = ty.under fun id => (image id).getD (.var id) := by
  induction ty <;> simp_all [Ty.replace]

namespace Subst

/-- The type that a variable resolves to. -/
def image (subst : Subst) (id : Nat) : Ty := subst.apply (.var id)

/-! ## Ranks -/

/-- The variables have ranks that descend along the bindings, and no more ranks than there are bindings. -/
def Acyclic (subst : Subst) : Prop :=
  ∃ rank : Nat → Nat, (∀ id, rank id ≤ subst.size) ∧
    ∀ id ty, subst.get? id = some ty → 0 < rank id ∧ ∀ other ∈ ty.vars, rank other < rank id

theorem acyclic_empty : Acyclic ∅ := by
  refine ⟨fun _ => 0, fun _ => Nat.zero_le _, ?_⟩
  intro id ty found
  simp at found

/-- **Induction along the bindings.** -/
theorem Acyclic.induction {subst : Subst} (acyclic : subst.Acyclic) {motive : Nat → Prop}
    (free : ∀ id, subst.get? id = none → motive id)
    (bound : ∀ id ty, subst.get? id = some ty → (∀ other ∈ ty.vars, motive other) → motive id)
    (id : Nat) : motive id := by
  obtain ⟨rank, -, descends⟩ := acyclic
  induction ranked : rank id using Nat.strongRecOn generalizing id with
  | ind height ih =>
    cases found : subst.get? id with
    | none => exact free id found
    | some ty =>
      refine bound id ty found ?_
      intro other member
      exact ih (rank other) (ranked ▸ (descends id ty found).2 other member) other rfl

/-- A new binding to a type of other unbound variables keeps a substitution acyclic. -/
theorem Acyclic.insert {subst : Subst} (acyclic : subst.Acyclic) {id : Nat} {ty : Ty}
    (new : subst.get? id = none) (unbound : ∀ other ∈ ty.vars, subst.get? other = none)
    (apart : id ∉ ty.vars) : Acyclic (Dict.insert subst id ty) := by
  obtain ⟨rank, bounded, descends⟩ := acyclic
  -- the old bindings move up by one, to make room for the new one below them
  refine ⟨fun other => if other = id then 1 else if (subst.get? other).isSome then rank other + 1 else 0,
    ?_, ?_⟩
  · intro other
    have := bounded other
    rw [Dict.size_insert_of_get?_eq_none new ty]
    grind
  · intro other found get
    rw [Dict.get?_insert] at get
    by_cases here : id = other
    · subst here
      rw [if_pos rfl] at get
      obtain rfl := Option.some.inj get
      refine ⟨by simp, ?_⟩
      intro inner member
      have different : inner ≠ id := fun same => apart (same ▸ member)
      simp [different, unbound inner member]
    · rw [if_neg here] at get
      have below := descends other found get
      refine ⟨by simp [Ne.symm here, get], ?_⟩
      intro inner member
      have := below.2 inner member
      grind

/-! ## Application as an assignment -/

theorem resolve_eq_under (subst : Subst) (rounds : Nat) (ty : Ty) :
    subst.resolve rounds ty = ty.under fun id => subst.resolve rounds (.var id) := by
  cases rounds with
  | zero => exact (Ty.under_self ty).symm
  | succ rounds =>
    simp only [resolve, Ty.replace_eq_under]
    rfl

theorem apply_eq_under (subst : Subst) (ty : Ty) : subst.apply ty = ty.under subst.image :=
  resolve_eq_under subst subst.size ty

theorem resolve_of_free {subst : Subst} {id : Nat} (free : subst.get? id = none) (rounds : Nat) :
    subst.resolve rounds (.var id) = .var id := by
  cases rounds with
  | zero => rfl
  | succ rounds => simp [resolve, Ty.replace, free]

theorem resolve_of_bound {subst : Subst} {id : Nat} {ty : Ty} (bound : subst.get? id = some ty)
    (rounds : Nat) : subst.resolve (rounds + 1) (.var id) = subst.resolve rounds ty := by
  simp [resolve, Ty.replace, bound]

theorem image_of_free {subst : Subst} {id : Nat} (free : subst.get? id = none) :
    subst.image id = .var id := resolve_of_free free subst.size

/-- As many rounds as the rank of a variable resolve it, and further rounds change nothing. -/
theorem resolve_stable {subst : Subst} {rank : Nat → Nat}
    (descends : ∀ id ty, subst.get? id = some ty → 0 < rank id ∧ ∀ other ∈ ty.vars, rank other < rank id)
    {first second : Nat} {ty : Ty} (enough : ∀ id ∈ ty.vars, rank id ≤ first)
    (enough' : ∀ id ∈ ty.vars, rank id ≤ second) :
    subst.resolve first ty = subst.resolve second ty := by
  induction first generalizing second ty with
  | zero =>
    rw [resolve_eq_under subst 0, resolve_eq_under subst second]
    refine Ty.under_congr fun id member => ?_
    cases found : subst.get? id with
    | none => rw [resolve_of_free found, resolve_of_free found]
    | some ty =>
      have := (descends id ty found).1
      have := enough id member
      omega
  | succ first ih =>
    rw [resolve_eq_under subst (first + 1), resolve_eq_under subst second]
    refine Ty.under_congr fun id member => ?_
    cases found : subst.get? id with
    | none => rw [resolve_of_free found, resolve_of_free found]
    | some ty =>
      obtain ⟨positive, below⟩ := descends id ty found
      have within := enough id member
      have within' := enough' id member
      obtain ⟨third, rfl⟩ : ∃ third, second = third + 1 := ⟨second - 1, by omega⟩
      rw [resolve_of_bound found, resolve_of_bound found]
      refine ih (fun other inside => ?_) fun other inside => ?_
      · have := below other inside
        omega
      · have := below other inside
        omega

/-- **A bound variable resolves to what its type resolves to.** -/
theorem Acyclic.image_of_bound {subst : Subst} (acyclic : subst.Acyclic) {id : Nat} {ty : Ty}
    (bound : subst.get? id = some ty) : subst.image id = subst.apply ty := by
  obtain ⟨rank, bounded, descends⟩ := acyclic
  obtain ⟨positive, below⟩ := descends id ty bound
  have within := bounded id
  obtain ⟨rounds, same⟩ : ∃ rounds, subst.size = rounds + 1 := ⟨subst.size - 1, by omega⟩
  unfold image apply
  rw [same, resolve_of_bound bound]
  refine resolve_stable descends (fun other member => ?_) fun other member => ?_
  · have := below other member
    omega
  · have := below other member
    omega

/-- What is resolved mentions unbound variables only. -/
theorem Acyclic.unbound_of_mem_vars {subst : Subst} (acyclic : subst.Acyclic) {id : Nat} {ty : Ty}
    (member : id ∈ (subst.apply ty).vars) : subst.get? id = none := by
  rw [apply_eq_under] at member
  obtain ⟨other, -, inside⟩ := Ty.mem_vars_under.1 member
  induction other using acyclic.induction with
  | free other free =>
    rw [image_of_free free] at inside
    simp only [Ty.vars, List.mem_singleton] at inside
    exact inside ▸ free
  | bound other bound found ih =>
    rw [acyclic.image_of_bound found, apply_eq_under] at inside
    obtain ⟨further, within, deeper⟩ := Ty.mem_vars_under.1 inside
    exact ih further within deeper

theorem apply_eq_self {subst : Subst} {ty : Ty} (unbound : ∀ id ∈ ty.vars, subst.get? id = none) :
    subst.apply ty = ty := by
  rw [apply_eq_under]
  exact Ty.under_eq_self fun id member => image_of_free (unbound id member)

/-- **Application after a new binding.** -/
theorem Acyclic.apply_insert {subst : Subst} (acyclic : subst.Acyclic) {id : Nat} {ty : Ty}
    (new : subst.get? id = none) (unbound : ∀ other ∈ ty.vars, subst.get? other = none)
    (apart : id ∉ ty.vars) (target : Ty) :
    apply (Dict.insert subst id ty) target = (subst.apply target).under (Function.update .var id ty) := by
  have stillAcyclic := acyclic.insert new unbound apart
  have images : ∀ other, image (Dict.insert subst id ty) other =
      (subst.image other).under (Function.update .var id ty) := by
    intro other
    induction other using acyclic.induction with
    | free other free =>
      rw [image_of_free free, Ty.under_var]
      by_cases here : id = other
      · subst here
        rw [Function.update_self, stillAcyclic.image_of_bound (by rw [Dict.get?_insert, if_pos rfl]),
          apply_eq_under]
        refine Ty.under_eq_self fun inner member => image_of_free ?_
        have different : id ≠ inner := fun same => apart (same ▸ member)
        rw [Dict.get?_insert, if_neg different, unbound inner member]
      · rw [Function.update_of_ne (Ne.symm here)]
        exact image_of_free (by rw [Dict.get?_insert, if_neg here, free])
    | bound other bound found ih =>
      have different : id ≠ other := by
        rintro rfl
        simp [new] at found
      rw [acyclic.image_of_bound found,
        stillAcyclic.image_of_bound (by rw [Dict.get?_insert, if_neg different, found]),
        apply_eq_under, apply_eq_under, Ty.under_under]
      exact Ty.under_congr ih
  rw [apply_eq_under, apply_eq_under, Ty.under_under]
  exact Ty.under_congr fun other _ => images other

/-! ## Bindings as equations -/

/-- An assignment makes the two sides of every binding equal. -/
def SolvedBy (subst : Subst) (assignment : Nat → Ty) : Prop :=
  ∀ id ty, subst.get? id = some ty → assignment id = ty.under assignment

theorem solvedBy_empty (assignment : Nat → Ty) : SolvedBy ∅ assignment := by
  intro id ty found
  simp at found

theorem solvedBy_insert {subst : Subst} {id : Nat} {ty : Ty} {assignment : Nat → Ty}
    (new : subst.get? id = none) :
    SolvedBy (Dict.insert subst id ty) assignment ↔
      subst.SolvedBy assignment ∧ assignment id = ty.under assignment := by
  constructor
  · intro solved
    refine ⟨?_, solved id ty (by rw [Dict.get?_insert, if_pos rfl])⟩
    intro other bound found
    have different : id ≠ other := by
      rintro rfl
      simp [new] at found
    exact solved other bound (by rw [Dict.get?_insert, if_neg different, found])
  · rintro ⟨solved, here⟩ other bound found
    rw [Dict.get?_insert] at found
    split at found
    · next same =>
      subst same
      obtain rfl := Option.some.inj found
      exact here
    · exact solved other bound found

/-- **Resolution does not show under an assignment that solves the bindings.** -/
theorem SolvedBy.under_apply {subst : Subst} {assignment : Nat → Ty} (solved : subst.SolvedBy assignment)
    (ty : Ty) : (subst.apply ty).under assignment = ty.under assignment := by
  have rounds : ∀ rounds ty, (subst.resolve rounds ty).under assignment = ty.under assignment := by
    intro rounds
    induction rounds with
    | zero =>
      intro ty
      rfl
    | succ rounds ih =>
      intro ty
      rw [resolve_eq_under, Ty.under_under]
      refine Ty.under_congr fun id _ => ?_
      cases found : subst.get? id with
      | none => rw [resolve_of_free found, Ty.under_var]
      | some bound => rw [resolve_of_bound found, ih bound, solved id bound found]
  exact rounds subst.size ty

theorem Acyclic.solvedBy_image {subst : Subst} (acyclic : subst.Acyclic) : subst.SolvedBy subst.image := by
  intro id ty found
  rw [acyclic.image_of_bound found, apply_eq_under]

/-! ## Quantifiers -/

/-- There is no quantifier in the bindings. -/
def QuantifierFree (subst : Subst) : Prop := ∀ id ty, subst.get? id = some ty → ty.quantifierFree

theorem quantifierFree_empty : QuantifierFree ∅ := by
  intro id ty found
  simp at found

theorem QuantifierFree.insert {subst : Subst} (free : subst.QuantifierFree) {id : Nat} {ty : Ty}
    (freeTy : ty.quantifierFree) : QuantifierFree (Dict.insert subst id ty) := by
  intro other bound found
  rw [Dict.get?_insert] at found
  split at found
  · exact Option.some.inj found ▸ freeTy
  · exact free other bound found

theorem QuantifierFree.apply {subst : Subst} (free : subst.QuantifierFree) {ty : Ty}
    (freeTy : ty.quantifierFree) : (subst.apply ty).quantifierFree := by
  have rounds : ∀ rounds ty, ty.quantifierFree → (subst.resolve rounds ty).quantifierFree := by
    intro rounds
    induction rounds with
    | zero =>
      intro ty freeTy
      exact freeTy
    | succ rounds ih =>
      intro ty freeTy
      rw [resolve_eq_under]
      refine Ty.quantifierFree_under freeTy fun id _ => ?_
      cases found : subst.get? id with
      | none => rw [resolve_of_free found]; rfl
      | some bound => rw [resolve_of_bound found]; exact ih bound (free id bound found)
  exact rounds subst.size ty freeTy

/-! ## Resolution without rounds -/

/-- What a type resolves to. -/
inductive Resolves (subst : Subst) : (ty resolved : Ty) → Prop where
  | free {id : Nat} (free : subst.get? id = none) : Resolves subst (.var id) (.var id)
  | bound {id : Nat} {ty resolved : Ty} (bound : subst.get? id = some ty)
      (below : Resolves subst ty resolved) : Resolves subst (.var id) resolved
  | base (name : String) : Resolves subst (.base name) (.base name)
  | vector (length : Nat) : Resolves subst (.vector length) (.vector length)
  | arrow {source target source' target' : Ty} (atSource : Resolves subst source source')
      (atTarget : Resolves subst target target') :
      Resolves subst (.arrow source target) (.arrow source' target')
  | either {left right left' right' : Ty} (atLeft : Resolves subst left left')
      (atRight : Resolves subst right right') :
      Resolves subst (.either left right) (.either left' right')
  | list {element element' : Ty} (inside : Resolves subst element element') :
      Resolves subst (.list element) (.list element')
  | maybe {element element' : Ty} (inside : Resolves subst element element') :
      Resolves subst (.maybe element) (.maybe element')
  | quantified {id : Nat} {body body' : Ty} (inside : Resolves subst body body') :
      Resolves subst (.quantified id body) (.quantified id body')

theorem Resolves.eq_apply {subst : Subst} (acyclic : subst.Acyclic) {ty resolved : Ty}
    (resolves : subst.Resolves ty resolved) : resolved = subst.apply ty := by
  induction resolves with
  | free free => exact (image_of_free free).symm
  | bound bound _ ih => exact ih.trans (acyclic.image_of_bound bound).symm
  | base name => rw [apply_eq_under, Ty.under_base]
  | vector length => rw [apply_eq_under, Ty.under_vector]
  | arrow _ _ source target =>
    rw [source, target]
    simp only [apply_eq_under, Ty.under_arrow]
  | either _ _ left right =>
    rw [left, right]
    simp only [apply_eq_under, Ty.under_either]
  | list _ ih =>
    rw [ih]
    simp only [apply_eq_under, Ty.under_list]
  | maybe _ ih =>
    rw [ih]
    simp only [apply_eq_under, Ty.under_maybe]
  | quantified _ ih =>
    rw [ih]
    simp only [apply_eq_under, Ty.under_quantified]

/-- **Resolution comes to an end.** -/
theorem Acyclic.resolves {subst : Subst} (acyclic : subst.Acyclic) (ty : Ty) :
    subst.Resolves ty (subst.apply ty) := by
  have throughout : ∀ ty : Ty, (∀ id ∈ ty.vars, subst.Resolves (.var id) (subst.image id)) →
      subst.Resolves ty (subst.apply ty) := by
    intro ty atVars
    rw [apply_eq_under]
    induction ty with
    | var id => exact atVars id (by simp [Ty.vars])
    | base name => exact .base name
    | vector length => exact .vector length
    | arrow source target sourceIH targetIH =>
      exact .arrow (sourceIH fun id member => atVars id (by simp [Ty.vars, member]))
        (targetIH fun id member => atVars id (by simp [Ty.vars, member]))
    | either left right leftIH rightIH =>
      exact .either (leftIH fun id member => atVars id (by simp [Ty.vars, member]))
        (rightIH fun id member => atVars id (by simp [Ty.vars, member]))
    | list element ih => exact .list (ih atVars)
    | maybe element ih => exact .maybe (ih atVars)
    | quantified id body ih => exact .quantified (ih atVars)
  refine throughout ty fun id member => ?_
  clear member
  induction id using acyclic.induction with
  | free id free =>
    rw [image_of_free free]
    exact .free free
  | bound id bound found ih =>
    rw [acyclic.image_of_bound found]
    exact .bound found (throughout bound ih)

end Subst

end TermSpace
