import TermSpace.Term.Basic

/-!
# Parts of a term

A part of a term is the term itself or a part of one of its components.  Components are lists of
terms, and the induction principle here hands out one hypothesis for each member of the list, so that
a proof by induction need not treat terms and component lists together.
-/

namespace TermSpace.Term

set_option autoImplicit false

/-- **Induction on terms,** with one hypothesis for each component of a compound. -/
@[elab_as_elim, induction_eliminator]
theorem induction {motive : Term → Prop} (atom : ∀ name, motive (.atom name))
    (compound : ∀ operator components, (∀ component ∈ components, motive component) →
      motive (.compound operator components)) : ∀ term, motive term
  | .atom name => atom name
  | .compound operator components =>
    compound operator components fun component _ => induction atom compound component

/-- The parts of a term: the term as a whole, and the parts of its components. -/
inductive Part : (part whole : Term) → Prop where
  | whole (term : Term) : Part term term
  | inside {part component : Term} {operator : String} {components : List Term}
      (member : component ∈ components) (deeper : Part part component) :
      Part part (.compound operator components)

namespace Part

theorem trans {part middle whole : Term} (inner : Part part middle) (outer : Part middle whole) :
    Part part whole := by
  induction outer with
  | whole => exact inner
  | inside member _ ih => exact .inside member ih

/-- An atom has no part but itself. -/
@[simp] theorem atom_iff {part : Term} {name : String} : Part part (.atom name) ↔ part = .atom name := by
  constructor
  · intro inside
    cases inside with
    | whole => rfl
  · rintro rfl
    exact .whole _

/-- A part of a compound is the compound or lies in one of the components. -/
theorem compound_iff {part : Term} {operator : String} {components : List Term} :
    Part part (.compound operator components) ↔
      part = .compound operator components ∨ ∃ component ∈ components, Part part component := by
  constructor
  · intro inside
    cases inside with
    | whole => exact .inl rfl
    | inside member deeper => exact .inr ⟨_, member, deeper⟩
  · rintro (rfl | ⟨component, member, deeper⟩)
    · exact .whole _
    · exact .inside member deeper

end Part

end TermSpace.Term
