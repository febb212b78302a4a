import Mathlib.Data.List.Basic
import TermSpace.Bindings
import TermSpace.Proofs.Term.Parts

/-!
# Substitution and the variables of a term

Substituting bindings looks at nothing but the images of the variables that occur: bindings that give
these the same images give the same instance (`substitute_congr`), and the variables of an instance are
those of the images, from left to right (`variableOccurrences_substitute`).

An unbound name is its own image, so that the image of a name is a term in every case.  Where one set of
bindings extends another, entry by entry, the images of all names that were bound before stay what they
were.
-/

namespace TermSpace

set_option autoImplicit false

namespace Bindings

/-- The term that a name stands for.  A name without a term stands for itself. -/
def image (bindings : Bindings) (name : String) : Term := (bindings.get? name).getD (.atom name)

theorem image_of_get? {bindings : Bindings} {name : String} {value : Term}
    (bound : bindings.get? name = some value) : bindings.image name = value := by
  simp [image, bound]

/-- All entries of the earlier bindings are there in the later ones. -/
def Extends (later earlier : Bindings) : Prop :=
  ∀ name value, earlier.get? name = some value → later.get? name = some value

theorem Extends.refl (bindings : Bindings) : bindings.Extends bindings := fun _ _ bound => bound

theorem Extends.trans {last middle first : Bindings} (outer : last.Extends middle)
    (inner : middle.Extends first) : last.Extends first :=
  fun name value bound => outer name value (inner name value bound)

/-- An entry under a new name extends bindings. -/
theorem Extends.insert {bindings : Bindings} {name : String} (value : Term)
    (free : bindings.get? name = none) : Bindings.Extends (bindings.insert name value) bindings := by
  intro other term bound
  rw [Dict.get?_insert]
  split
  · next same =>
    subst same
    rw [free] at bound
    cases bound
  · exact bound

end Bindings

namespace Term

/-! ## Component lists -/

@[simp] theorem substituteAll_eq_map (bindings : Bindings) :
    ∀ components : List Term,
      substituteAll bindings components = components.map (substitute bindings)
  | [] => rfl
  | component :: rest => by
    rw [substituteAll, substituteAll_eq_map bindings rest, List.map_cons]

@[simp] theorem variableOccurrencesAll_eq_flatMap :
    ∀ components : List Term,
      variableOccurrencesAll components = components.flatMap variableOccurrences
  | [] => rfl
  | component :: rest => by
    rw [variableOccurrencesAll, variableOccurrencesAll_eq_flatMap rest, List.flatMap_cons]

/-! ## Instances -/

theorem substitute_variable (bindings : Bindings) {name : String}
    (kind : isVariableName name = true) :
    substitute bindings (.atom name) = bindings.image name := by
  simp [substitute, kind, Bindings.image]

theorem substitute_constant (bindings : Bindings) {name : String}
    (kind : isVariableName name = false) :
    substitute bindings (.atom name) = .atom name := by
  simp [substitute, kind]

/-- Only the images of the variables that occur matter. -/
theorem substitute_congr {first second : Bindings} (term : Term)
    (agree : ∀ name ∈ term.variableOccurrences, first.image name = second.image name) :
    term.substitute first = term.substitute second := by
  induction term with
  | atom name =>
    cases kind : isVariableName name with
    | true =>
      rw [substitute_variable first kind, substitute_variable second kind]
      exact agree name (by simp [variableOccurrences, kind])
    | false => rw [substitute_constant first kind, substitute_constant second kind]
  | compound operator components ih =>
    simp only [substitute, substituteAll_eq_map, compound.injEq, true_and]
    refine List.map_congr_left fun component member => ih component member fun name occurs => ?_
    refine agree name ?_
    rw [variableOccurrences, variableOccurrencesAll_eq_flatMap]
    exact List.mem_flatMap.2 ⟨component, member, occurs⟩

/-- **The variables of an instance** are those of the images, in the order of the occurrences. -/
theorem variableOccurrences_substitute (bindings : Bindings) (term : Term) :
    (term.substitute bindings).variableOccurrences =
      term.variableOccurrences.flatMap fun name => (bindings.image name).variableOccurrences := by
  induction term with
  | atom name =>
    cases kind : isVariableName name with
    | true => simp [substitute_variable bindings kind, variableOccurrences, kind]
    | false => simp [substitute_constant bindings kind, variableOccurrences, kind]
  | compound operator components ih =>
    simp only [substitute, substituteAll_eq_map, variableOccurrences,
      variableOccurrencesAll_eq_flatMap, List.flatMap_map, List.flatMap_assoc]
    exact List.flatMap_congr fun component member => ih component member

/-! ## Terms without variables, and terms with each variable once -/

/-- A term without variables. -/
def Closed (term : Term) : Prop := term.variableOccurrences = []

/-- A term in which no variable occurs twice. -/
def Linear (term : Term) : Prop := term.variableOccurrences.Nodup

instance (term : Term) : Decidable term.Closed := inferInstanceAs (Decidable (_ = _))

instance (term : Term) : Decidable term.Linear := inferInstanceAs (Decidable (List.Nodup _))

theorem closed_atom {name : String} : (atom name).Closed ↔ isVariableName name = false := by
  simp [Closed, variableOccurrences]

theorem closed_compound {operator : String} {components : List Term} :
    (compound operator components).Closed ↔ ∀ component ∈ components, component.Closed := by
  simp [Closed, variableOccurrences]

/-- What is put in for a variable of a template is closed if the instance is. -/
theorem Closed.image {bindings : Bindings} {term : Term} {name : String}
    (closed : (term.substitute bindings).Closed) (occurs : name ∈ term.variableOccurrences) :
    (bindings.image name).Closed := by
  rw [Closed, variableOccurrences_substitute] at closed
  exact List.flatMap_eq_nil_iff.1 closed name occurs

/-- Nothing can be put into a closed term. -/
theorem Closed.substitute {term : Term} (closed : term.Closed) (bindings : Bindings) :
    term.substitute bindings = term := by
  induction term with
  | atom name => exact substitute_constant bindings (closed_atom.1 closed)
  | compound operator components ih =>
    simp only [Term.substitute, substituteAll_eq_map, compound.injEq, true_and]
    refine (List.map_congr_left fun component member => ?_).trans (List.map_id components)
    exact ih component member (closed_compound.1 closed component member)

theorem mem_variableNames {name : String} {term : Term} :
    name ∈ term.variableNames ↔ name ∈ term.variableOccurrences := by
  simp [variableNames, List.mem_eraseDups]

end Term

end TermSpace
