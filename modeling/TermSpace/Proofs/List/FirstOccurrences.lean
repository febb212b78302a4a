import Mathlib.Data.List.Induction
import Mathlib.Data.List.Nodup

/-!
# First occurrences

Where a list is to have no repetitions, each value stays where it occurs first.  What is listed one value after
another, each put at the end unless it is there already, is the list of first occurrences (`foldl_addNew`).

Repetitions may be dropped early: of lists that are put together (`eraseDups_append_congr`), of the values for
which lists are put (`eraseDups_flatMap_eraseDups`), and of the lists that are put for them
(`eraseDups_flatMap_congr`).  Values that have places are listed in the order of their first places
(`pairwise_eraseDups_map`).
-/

namespace TermSpace

set_option autoImplicit false

section FirstOccurrences

variable {α β : Type} [BEq α] [LawfulBEq α] [BEq β] [LawfulBEq β]

/-- A repetition at the end is dropped. -/
theorem eraseDups_concat (values : List α) (value : α) :
    (values ++ [value]).eraseDups =
      if value ∈ values then values.eraseDups else values.eraseDups ++ [value] := by
  rw [List.eraseDups_append, List.removeAll]
  by_cases inside : value ∈ values <;> simp [inside, List.eraseDups_cons]

theorem nodup_eraseDups (values : List α) : values.eraseDups.Nodup := by
  induction values using List.reverseRecOn with
  | nil => exact List.nodup_nil
  | append_singleton values value ih =>
    rw [eraseDups_concat]
    split
    · exact ih
    · next new =>
      rw [← List.concat_eq_append]
      exact ih.concat (mt List.mem_eraseDups.1 new)

/-- Without repetitions there is nothing to drop. -/
theorem eraseDups_of_nodup {values : List α} (distinct : values.Nodup) : values.eraseDups = values := by
  induction values with
  | nil => rfl
  | cons value rest ih =>
    obtain ⟨absent, others⟩ := List.nodup_cons.1 distinct
    have kept : rest.filter (fun other => !other == value) = rest := by
      refine List.filter_eq_self.2 fun other inside => ?_
      simpa using fun same : other = value => absent (same ▸ inside)
    rw [List.eraseDups_cons, kept, ih others]

theorem eraseDups_eraseDups (values : List α) : values.eraseDups.eraseDups = values.eraseDups :=
  eraseDups_of_nodup (nodup_eraseDups values)

/-- Dropping values and dropping repetitions can be done in either order. -/
theorem eraseDups_filter (keep : α → Bool) (values : List α) :
    (values.filter keep).eraseDups = values.eraseDups.filter keep := by
  induction values using List.reverseRecOn with
  | nil => rfl
  | append_singleton values value ih =>
    rw [List.filter_append, eraseDups_concat]
    cases kept : keep value with
    | false => split <;> simp [kept, ih]
    | true =>
      simp only [List.filter_cons_of_pos kept, List.filter_nil, eraseDups_concat, List.mem_filter, kept, and_true, ih]
      split
      · rfl
      · rw [List.filter_append, List.filter_cons_of_pos kept, List.filter_nil]

/-- A function that tells the values of a list apart keeps their first occurrences. -/
theorem eraseDups_map {function : α → β} {values : List α}
    (injective : ∀ first ∈ values, ∀ second ∈ values, function first = function second → first = second) :
    (values.map function).eraseDups = values.eraseDups.map function := by
  induction values using List.reverseRecOn with
  | nil => rfl
  | append_singleton values value ih =>
    have onValues := ih fun first firstMember second secondMember =>
      injective first (List.mem_append_left _ firstMember) second (List.mem_append_left _ secondMember)
    have again : function value ∈ values.map function ↔ value ∈ values := by
      refine ⟨fun member => ?_, List.mem_map_of_mem⟩
      obtain ⟨other, inside, same⟩ := List.mem_map.1 member
      rwa [injective value (by simp) other (List.mem_append_left _ inside) same.symm]
    rw [List.map_append, List.map_singleton, eraseDups_concat, eraseDups_concat, onValues]
    simp only [again]
    split <;> simp

/-! ## Lists put together -/

/-- The first occurrences in lists that are put together depend on the first occurrences in these. -/
theorem eraseDups_append_congr {first first' second second' : List α}
    (sameFirst : first.eraseDups = first'.eraseDups) (sameSecond : second.eraseDups = second'.eraseDups) :
    (first ++ second).eraseDups = (first' ++ second').eraseDups := by
  have sameMembers : ∀ value, first.elem value = first'.elem value := by
    intro value
    rw [Bool.eq_iff_iff, List.elem_iff, List.elem_iff, ← List.mem_eraseDups, sameFirst, List.mem_eraseDups]
  rw [List.eraseDups_append, List.eraseDups_append, List.removeAll, List.removeAll, eraseDups_filter,
    eraseDups_filter, sameFirst, sameSecond]
  simp only [sameMembers]

/-- What is there already adds nothing. -/
theorem eraseDups_append_of_subset {values again : List α} (known : again ⊆ values) :
    (values ++ again).eraseDups = values.eraseDups := by
  have nothing : again.removeAll values = [] := by
    rw [List.removeAll, List.filter_eq_nil_iff]
    intro value member
    simpa using known member
  rw [List.eraseDups_append, nothing, List.eraseDups_nil, List.append_nil]

/-- Repetitions may be dropped in the lists that are put for values. -/
theorem eraseDups_flatMap_congr {γ : Type} {values : List γ} {images images' : γ → List β}
    (same : ∀ value ∈ values, (images value).eraseDups = (images' value).eraseDups) :
    (values.flatMap images).eraseDups = (values.flatMap images').eraseDups := by
  induction values with
  | nil => rfl
  | cons value rest ih =>
    rw [List.flatMap_cons, List.flatMap_cons]
    exact eraseDups_append_congr (same value List.mem_cons_self)
      (ih fun other member => same other (List.mem_cons_of_mem _ member))

/-- Repetitions may be dropped among the values for which lists are put. -/
theorem eraseDups_flatMap_eraseDups (values : List α) (images : α → List β) :
    (values.eraseDups.flatMap images).eraseDups = (values.flatMap images).eraseDups := by
  induction values using List.reverseRecOn with
  | nil => rfl
  | append_singleton values value ih =>
    rw [eraseDups_concat, List.flatMap_append, List.flatMap_singleton]
    split
    · next inside =>
      rw [ih, eraseDups_append_of_subset]
      exact fun image member => List.mem_flatMap.2 ⟨value, inside, member⟩
    · rw [List.flatMap_append, List.flatMap_singleton]
      exact eraseDups_append_congr ih rfl

/-! ## One value after another -/

/-- A list with a value put at its end, unless it is in the list already. -/
def addNew (listed : List α) (value : α) : List α :=
  if value ∈ listed then listed else listed ++ [value]

theorem foldl_addNew (values : List α) : values.foldl addNew [] = values.eraseDups := by
  induction values using List.reverseRecOn with
  | nil => rfl
  | append_singleton values value ih =>
    rw [List.foldl_append, List.foldl_cons, List.foldl_nil, ih, addNew, eraseDups_concat]
    simp only [List.mem_eraseDups]

/-! ## Places -/

/-- One value has a place before all places of another. -/
def StartsBefore {κ : Type} [LT κ] (places : List (κ × α)) (earlier later : α) : Prop :=
  ∃ place, (place, earlier) ∈ places ∧ ∀ other, (other, later) ∈ places → place < other

/-- **Values are listed in the order of their first places** if they are taken in the order of all places. -/
theorem pairwise_eraseDups_map {κ : Type} [LT κ] {places : List (κ × α)}
    (ascending : places.Pairwise fun earlier later => earlier.1 < later.1) :
    (places.map (·.2)).eraseDups.Pairwise (StartsBefore places) := by
  induction places using List.reverseRecOn with
  | nil => exact .nil
  | append_singleton places last ih =>
    obtain ⟨before, -, below⟩ := List.pairwise_append.1 ascending
    have isBelow : ∀ place value, (place, value) ∈ places → place < last.1 := fun place value member =>
      below (place, value) member last List.mem_cons_self
    have inPlaces : ∀ place value, (place, value) ∈ places ++ [last] →
        (place, value) ∈ places ∨ place = last.1 := by
      intro place value member
      exact (List.mem_append.1 member).imp_right fun atEnd => congrArg Prod.fst (List.mem_singleton.1 atEnd)
    have still : (places.map (·.2)).eraseDups.Pairwise (StartsBefore (places ++ [last])) := by
      refine (ih before).imp ?_
      rintro earlier later ⟨place, member, first⟩
      refine ⟨place, List.mem_append_left _ member, fun other inside => ?_⟩
      rcases inPlaces other later inside with inside | rfl
      · exact first other inside
      · exact isBelow place earlier member
    rw [List.map_append, List.map_singleton, eraseDups_concat]
    split
    · exact still
    · next new =>
      refine List.pairwise_append.2 ⟨still, List.pairwise_singleton _ _, fun earlier known later isNew => ?_⟩
      obtain rfl := List.mem_singleton.1 isNew
      obtain ⟨⟨place, value⟩, member, rfl⟩ := List.mem_map.1 (List.mem_eraseDups.1 known)
      refine ⟨place, List.mem_append_left _ member, fun other inside => ?_⟩
      -- the new value has no place but the last
      rcases inPlaces other last.2 inside with inside | rfl
      · exact absurd (List.mem_map.2 ⟨_, inside, rfl⟩) new
      · exact isBelow place value member

end FirstOccurrences

end TermSpace
