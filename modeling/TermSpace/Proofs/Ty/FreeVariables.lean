import TermSpace.Proofs.List.FirstOccurrences
import TermSpace.Proofs.Ty.Scoping

/-!
# Free occurrences and their order

A place in a type is a path that goes down by the numbers of components.  A variable is free at a place if it stands
there and no quantifier around the place binds it (`FreeAt`).  Places are ordered lexicographically, which for the
places of variables is from left to right.

Free variables are looked for in two ways.  The test for one of them turns back at a quantifier over it, and the
list of all of them is made with the bound variables at hand.  A variable may be bound in one component and free in
another, or bound again where it is bound already.  Both ways nevertheless go by the places: the test succeeds just if
there is a place at which the variable is free, and the list has each variable once, in the order of the first such
places (`freeVars_first_occurrences`).  One walk that takes along the bound variables and the list makes it as well
(`freeVars_eq_collectFree`).
-/

namespace TermSpace.Ty

set_option autoImplicit false

/-! ## Places -/

/-- The components of a type from left to right. -/
def components : Ty → List Ty
  | .var _ => []
  | .base _ => []
  | .vector _ => []
  | .arrow source target => [source, target]
  | .either left right => [left, right]
  | .list element => [element]
  | .maybe element => [element]
  | .quantified _ body => [body]

/-- The variable that a quantifier binds. -/
def binder? : Ty → Option Nat
  | .quantified id _ => some id
  | _ => none

/-- The part of a type at a place. -/
def part? : Ty → List Nat → Option Ty
  | ty, [] => some ty
  | ty, index :: rest => ty.components[index]?.bind fun component => component.part? rest

/-- The variables that the quantifiers around a place bind. -/
def boundAround : Ty → List Nat → List Nat
  | _, [] => []
  | ty, index :: rest =>
    ty.binder?.toList ++ (ty.components[index]?.map fun component => component.boundAround rest).getD []

/-- **Free occurrences.** A variable stands at a place, and no quantifier around it binds the variable. -/
def FreeAt (ty : Ty) (place : List Nat) (id : Nat) : Prop :=
  ty.part? place = some (.var id) ∧ id ∉ ty.boundAround place

instance (ty : Ty) (place : List Nat) (id : Nat) : Decidable (ty.FreeAt place id) :=
  inferInstanceAs (Decidable (_ ∧ _))

section Places

variable {ty : Ty} {index id : Nat} {rest : List Nat}

@[simp] theorem freeAt_nil : ty.FreeAt [] id ↔ ty = .var id := by
  simp [FreeAt, part?, boundAround]

@[simp] theorem freeAt_cons : ty.FreeAt (index :: rest) id ↔
    ty.binder? ≠ some id ∧ ∃ component, ty.components[index]? = some component ∧ component.FreeAt rest id := by
  cases found : ty.components[index]? with
  | none => simp [FreeAt, part?, found]
  | some component =>
    simp only [FreeAt, part?, boundAround, found, Option.bind_some, Option.map_some, Option.getD_some,
      List.mem_append, not_or, Option.mem_toList, Option.some.injEq, exists_eq_left']
    tauto

end Places

/-! ## Free occurrences from left to right -/

/-- Places in a component, as places in the whole. -/
def inComponent (index : Nat) (places : List (List Nat × Nat)) : List (List Nat × Nat) :=
  places.map fun place => (index :: place.1, place.2)

section InComponent

variable {index other id : Nat} {rest : List Nat} {places : List (List Nat × Nat)}

@[simp] theorem map_snd_inComponent : (inComponent index places).map (·.2) = places.map (·.2) := by
  simp [inComponent]

@[simp] theorem nil_not_mem_inComponent : ([], id) ∉ inComponent index places := by
  simp [inComponent]

@[simp] theorem cons_mem_inComponent :
    (other :: rest, id) ∈ inComponent index places ↔ index = other ∧ (rest, id) ∈ places := by
  simp [inComponent, and_comm]

theorem ascending_inComponent (ascending : places.Pairwise fun earlier later => earlier.1 < later.1) :
    (inComponent index places).Pairwise fun earlier later => earlier.1 < later.1 :=
  List.pairwise_map.2 (ascending.imp fun before => List.cons_lt_cons_iff.2 (.inr ⟨rfl, before⟩))

theorem ascending_beside {others : List (List Nat × Nat)}
    (ascending : places.Pairwise fun earlier later => earlier.1 < later.1)
    (ascending' : others.Pairwise fun earlier later => earlier.1 < later.1) :
    (inComponent 0 places ++ inComponent 1 others).Pairwise fun earlier later => earlier.1 < later.1 := by
  refine List.pairwise_append.2 ⟨ascending_inComponent ascending, ascending_inComponent ascending', ?_⟩
  intro earlier inFirst later inSecond
  obtain ⟨place, -, rfl⟩ := List.mem_map.1 inFirst
  obtain ⟨place', -, rfl⟩ := List.mem_map.1 inSecond
  exact List.cons_lt_cons_iff.2 (.inl Nat.zero_lt_one)

end InComponent

/-- The places of free variables from left to right with the variables, inside quantifiers over `bound`. -/
def freePlaces (bound : List Nat) : Ty → List (List Nat × Nat)
  | .var id => if id ∈ bound then [] else [([], id)]
  | .base _ => []
  | .vector _ => []
  | .arrow source target => inComponent 0 (source.freePlaces bound) ++ inComponent 1 (target.freePlaces bound)
  | .either left right => inComponent 0 (left.freePlaces bound) ++ inComponent 1 (right.freePlaces bound)
  | .list element => inComponent 0 (element.freePlaces bound)
  | .maybe element => inComponent 0 (element.freePlaces bound)
  | .quantified id body => inComponent 0 (body.freePlaces (id :: bound))

/-- The variables at the places are the free occurrences. -/
theorem map_snd_freePlaces (bound : List Nat) (ty : Ty) :
    (ty.freePlaces bound).map (·.2) = ty.freeOccurrences bound := by
  induction ty generalizing bound with
  | var id =>
    rw [freePlaces, freeOccurrences]
    split <;> rfl
  | base name => rfl
  | vector length => rfl
  | arrow left right leftIH rightIH | either left right leftIH rightIH =>
    rw [freePlaces, freeOccurrences, List.map_append, map_snd_inComponent, map_snd_inComponent, leftIH, rightIH]
  | list element ih | maybe element ih | quantified id element ih =>
    rw [freePlaces, freeOccurrences, map_snd_inComponent, ih]

/-- The places are all those at which a variable is free. -/
theorem mem_freePlaces {bound place : List Nat} {id : Nat} {ty : Ty} :
    (place, id) ∈ ty.freePlaces bound ↔ ty.FreeAt place id ∧ id ∉ bound := by
  induction ty generalizing bound place with
  | var other =>
    rw [freePlaces]
    cases place with
    | nil =>
      rw [freeAt_nil, var.injEq]
      split <;> grind
    | cons index rest => split <;> simp [components]
  | base name => cases place <;> simp [freePlaces, components]
  | vector length => cases place <;> simp [freePlaces, components]
  | arrow left right leftIH rightIH | either left right leftIH rightIH =>
    rcases place with _ | ⟨_ | _ | index, rest⟩ <;>
      simp [freePlaces, components, binder?, leftIH, rightIH]
  | list element ih | maybe element ih =>
    rcases place with _ | ⟨_ | index, rest⟩ <;> simp [freePlaces, components, binder?, ih]
  | quantified other body ih =>
    rcases place with _ | ⟨_ | index, rest⟩
    · simp [freePlaces]
    · simp only [freePlaces, cons_mem_inComponent, ih, freeAt_cons, components, binder?, ne_eq, Option.some.injEq,
        List.getElem?_cons_zero, exists_eq_left', List.mem_cons, true_and]
      tauto
    · simp [freePlaces, components]

/-- The places are in ascending order. -/
theorem ascending_freePlaces (bound : List Nat) (ty : Ty) :
    (ty.freePlaces bound).Pairwise fun earlier later => earlier.1 < later.1 := by
  induction ty generalizing bound with
  | var id =>
    rw [freePlaces]
    split
    · exact .nil
    · exact List.pairwise_singleton _ _
  | base name => exact .nil
  | vector length => exact .nil
  | arrow left right leftIH rightIH | either left right leftIH rightIH =>
    exact ascending_beside (leftIH bound) (rightIH bound)
  | list element ih | maybe element ih => exact ascending_inComponent (ih bound)
  | quantified id body ih => exact ascending_inComponent (ih (id :: bound))

/-- A variable occurs free just if there is a place at which it does. -/
theorem occurs_iff_freeAt {id : Nat} {ty : Ty} : ty.occurs id ↔ ∃ place, ty.FreeAt place id := by
  have listed : id ∈ ty.freeOccurrences [] ↔ ∃ place, (place, id) ∈ ty.freePlaces [] := by
    rw [← map_snd_freePlaces]
    simp
  simpa [mem_freeOccurrences, mem_freePlaces] using listed

/-! ## One walk -/

/-- A walk from left to right that lists each variable behind the others, unless it is bound around or listed
already. -/
def collectFree (bound listed : List Nat) : Ty → List Nat
  | .var id => if id ∈ bound then listed else addNew listed id
  | .base _ => listed
  | .vector _ => listed
  | .arrow source target => target.collectFree bound (source.collectFree bound listed)
  | .either left right => right.collectFree bound (left.collectFree bound listed)
  | .list element => element.collectFree bound listed
  | .maybe element => element.collectFree bound listed
  | .quantified id body => body.collectFree (id :: bound) listed

theorem collectFree_eq_foldl (bound listed : List Nat) (ty : Ty) :
    ty.collectFree bound listed = (ty.freeOccurrences bound).foldl addNew listed := by
  induction ty generalizing bound listed with
  | var id =>
    rw [collectFree, freeOccurrences]
    split <;> rfl
  | base name => rfl
  | vector length => rfl
  | arrow left right leftIH rightIH | either left right leftIH rightIH =>
    rw [collectFree, freeOccurrences, List.foldl_append, leftIH, rightIH]
  | list element ih | maybe element ih => exact ih bound listed
  | quantified id body ih => exact ih (id :: bound) listed

/-- **The free variables** are what the walk lists. -/
theorem freeVars_eq_collectFree (ty : Ty) : ty.freeVars = ty.collectFree [] [] := by
  rw [collectFree_eq_foldl, foldl_addNew, freeVars]

/-! ## The order of free variables -/

/-- **Free variables by their first occurrences.** A variable passes the test for free occurrences just if it is
listed among the free variables, and just if there is a place at which it is free.  None is listed twice, and
each is free at a place before all those at which one that is listed later is. -/
theorem freeVars_first_occurrences (ty : Ty) :
    (∀ id, (ty.occurs id ↔ id ∈ ty.freeVars) ∧ (ty.occurs id ↔ ∃ place, ty.FreeAt place id)) ∧
    ty.freeVars.Nodup ∧
    ty.freeVars.Pairwise fun earlier later =>
      ∃ place, ty.FreeAt place earlier ∧ ∀ other, ty.FreeAt other later → place < other := by
  refine ⟨fun id => ⟨mem_freeVars_iff_occurs.symm, occurs_iff_freeAt⟩, nodup_eraseDups _, ?_⟩
  rw [freeVars, ← map_snd_freePlaces]
  refine (pairwise_eraseDups_map (ascending_freePlaces [] ty)).imp ?_
  rintro earlier later ⟨place, free, first⟩
  exact ⟨place, (mem_freePlaces.1 free).1, fun other free' =>
    first other (mem_freePlaces.2 ⟨free', List.not_mem_nil⟩)⟩

/-- The variable `1` is bound in the first component and free in the second.  So `3`, which is free inside both
quantifiers of the first, is listed before it. -/
theorem freeVars_first_occurrences_around_quantifiers :
    let ty := arrow (.quantified 1 (.arrow (.var 1) (.quantified 1 (.either (.var 3) (.var 1)))))
      (.either (.var 1) (.var 3))
    ty.freeVars = [3, 1] ∧ ¬ ty.FreeAt [0, 0, 0] 1 ∧ ty.FreeAt [0, 0, 1, 0, 0] 3 ∧ ty.FreeAt [1, 0] 1 ∧
    ∃ place, ty.FreeAt place 3 ∧ ∀ other, ty.FreeAt other 1 → place < other := by
  intro ty
  have listed : ty.freeVars = [3, 1] := by decide
  have ordered := (freeVars_first_occurrences ty).2.2
  rw [listed] at ordered
  exact ⟨listed, by decide, by decide, by decide, List.pairwise_pair.1 ordered⟩

end TermSpace.Ty
