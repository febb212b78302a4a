import TermSpace.Proofs.Term.Parts

/-!
# Occurrences in post-order

An occurrence of a part is a context, a term with a hole in it, together with the part that fills the
hole.  The occurrences of a term are listed in post-order: those in the components from left to right,
and the term itself last.  A search for the first occurrence with some property therefore finds a
leftmost one among the innermost ones.

The search through a compound passes over the components in which there is nothing to find
(`find?_occurrences_inside`) and comes to the compound itself when there is nothing in any of them
(`find?_occurrences_here`).
-/

namespace TermSpace.Term

set_option autoImplicit false

/-- A term with a hole. -/
inductive Context where
  | hole
  /-- A compound with the hole in one of its components. -/
  | inside (operator : String) (before : List Term) (inner : Context) (after : List Term)

/-- The term with something in the hole. -/
def Context.fill (term : Term) : Context → Term
  | .hole => term
  | .inside operator before inner after => .compound operator (before ++ inner.fill term :: after)

mutual

/-- **The occurrences of all parts in post-order.** -/
def occurrences : Term → List (Context × Term)
  | .atom name => [(.hole, .atom name)]
  | .compound operator components =>
    occurrencesAll operator [] components ++ [(.hole, .compound operator components)]

/-- The occurrences in components that come after others. -/
def occurrencesAll (operator : String) (before : List Term) : List Term → List (Context × Term)
  | [] => []
  | component :: after =>
    (occurrences component).map
        (fun occurrence => (.inside operator before occurrence.1 after, occurrence.2)) ++
      occurrencesAll operator (before ++ [component]) after

end

mutual

/-- Filling the hole of an occurrence gives the term back. -/
theorem fill_of_mem_occurrences : ∀ (term : Term) {occurrence : Context × Term},
    occurrence ∈ term.occurrences → occurrence.1.fill occurrence.2 = term
  | .atom name, occurrence, member => by
    simp only [occurrences, List.mem_singleton] at member
    subst member
    rfl
  | .compound operator components, occurrence, member => by
    simp only [occurrences, List.mem_append, List.mem_singleton] at member
    rcases member with deeper | rfl
    · exact fill_of_mem_occurrencesAll operator [] components deeper
    · rfl

theorem fill_of_mem_occurrencesAll (operator : String) (before : List Term) :
    ∀ (components : List Term) {occurrence : Context × Term},
      occurrence ∈ occurrencesAll operator before components →
      occurrence.1.fill occurrence.2 = .compound operator (before ++ components)
  | [], _, member => by simp [occurrencesAll] at member
  | component :: after, occurrence, member => by
    simp only [occurrencesAll, List.mem_append, List.mem_map] at member
    rcases member with ⟨deeper, found, rfl⟩ | later
    · simp only [Context.fill, fill_of_mem_occurrences component found]
    · rw [fill_of_mem_occurrencesAll operator (before ++ [component]) after later]
      simp

end

mutual

/-- The parts that occur are the parts. -/
theorem mem_occurrences_iff : ∀ {term part : Term},
    (∃ context, (context, part) ∈ term.occurrences) ↔ Part part term
  | .atom name, part => by simp [occurrences]
  | .compound operator components, part => by
    simp only [occurrences, List.mem_append, exists_or, List.mem_singleton, Prod.mk.injEq,
      exists_and_right, exists_eq, true_and, Part.compound_iff,
      @mem_occurrencesAll_iff components operator]
    exact or_comm

theorem mem_occurrencesAll_iff : ∀ {components : List Term} {operator : String} {before : List Term}
    {part : Term}, (∃ context, (context, part) ∈ occurrencesAll operator before components) ↔
      ∃ component ∈ components, Part part component
  | [], _, _, _ => by simp [occurrencesAll]
  | component :: after, operator, before, part => by
    simp only [occurrencesAll, List.mem_append, exists_or, List.mem_cons, exists_eq_or_imp,
      @mem_occurrencesAll_iff after, ← @mem_occurrences_iff component]
    refine or_congr ?_ Iff.rfl
    constructor
    · rintro ⟨context, member⟩
      obtain ⟨⟨inner, found⟩, deeper, same⟩ := List.mem_map.1 member
      cases same
      exact ⟨inner, deeper⟩
    · rintro ⟨inner, deeper⟩
      exact ⟨_, List.mem_map.2 ⟨(inner, part), deeper, rfl⟩⟩

end

/-! ## Searching -/

section Search

variable {wanted : Term → Bool}

/-- Nothing is found if no part is wanted. -/
theorem find?_occurrences_eq_none {term : Term} :
    term.occurrences.find? (fun occurrence => wanted occurrence.2) = none ↔
      ∀ part, Part part term → ¬ wanted part := by
  rw [List.find?_eq_none]
  constructor
  · intro nowhere part inside
    obtain ⟨context, member⟩ := mem_occurrences_iff.2 inside
    exact nowhere (context, part) member
  · rintro nowhere ⟨context, part⟩ member
    exact nowhere part (mem_occurrences_iff.1 ⟨context, member⟩)

theorem find?_occurrences_map (operator : String) (before after : List Term) (term : Term) :
    (term.occurrences.map fun occurrence =>
        (Context.inside operator before occurrence.1 after, occurrence.2)).find?
        (fun occurrence => wanted occurrence.2) =
      (term.occurrences.find? fun occurrence => wanted occurrence.2).map fun occurrence =>
        (Context.inside operator before occurrence.1 after, occurrence.2) := by
  rw [List.find?_map]
  rfl

/-- A term is found as a whole if it is wanted and nothing in its components is. -/
theorem find?_occurrences_here {term : Term} (here : wanted term)
    (nowhere : ∀ component ∈ term.components, ∀ part, Part part component → ¬ wanted part) :
    term.occurrences.find? (fun occurrence => wanted occurrence.2) = some (.hole, term) := by
  cases term with
  | atom name => simp [occurrences, here]
  | compound operator components =>
    have passed : (occurrencesAll operator [] components).find?
        (fun occurrence => wanted occurrence.2) = none := by
      rw [List.find?_eq_none]
      rintro ⟨context, part⟩ member
      obtain ⟨component, inside, deeper⟩ := mem_occurrencesAll_iff.1 ⟨context, member⟩
      exact nowhere component inside part deeper
    simp [occurrences, List.find?_append, passed, here]

theorem find?_occurrencesAll_inside (operator : String) (after : List Term)
    {component found : Term} {context : Context}
    (there : component.occurrences.find? (fun occurrence => wanted occurrence.2) =
      some (context, found)) :
    ∀ (before passed : List Term), (∀ earlier ∈ before, ∀ part, Part part earlier → ¬ wanted part) →
      (occurrencesAll operator passed (before ++ component :: after)).find?
        (fun occurrence => wanted occurrence.2) =
        some (.inside operator (passed ++ before) context after, found)
  | [], passed, _ => by
    rw [List.nil_append, occurrencesAll, List.find?_append, find?_occurrences_map, there]
    simp
  | earlier :: before, passed, nowhere => by
    have nothing := find?_occurrences_eq_none.2 (nowhere earlier List.mem_cons_self)
    have later := find?_occurrencesAll_inside operator after there before (passed ++ [earlier])
      fun other member => nowhere other (List.mem_cons_of_mem _ member)
    rw [List.cons_append, occurrencesAll, List.find?_append, find?_occurrences_map, nothing, later]
    simp

/-- What is found in a component is found in the compound if nothing is wanted further left. -/
theorem find?_occurrences_inside {operator : String} {component found : Term} {context : Context}
    {before after : List Term}
    (nowhere : ∀ earlier ∈ before, ∀ part, Part part earlier → ¬ wanted part)
    (there : component.occurrences.find? (fun occurrence => wanted occurrence.2) =
      some (context, found)) :
    (compound operator (before ++ component :: after)).occurrences.find?
        (fun occurrence => wanted occurrence.2) =
      some (.inside operator before context after, found) := by
  rw [occurrences, List.find?_append, find?_occurrencesAll_inside operator after there before [] nowhere]
  rfl

end Search

end TermSpace.Term
