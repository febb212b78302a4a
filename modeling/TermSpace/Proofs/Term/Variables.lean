import TermSpace.Proofs.List.FirstOccurrences
import TermSpace.Proofs.Term.Composition

/-!
# The variables of an instance

The variables of a term are listed each at its first occurrence, which is what a walk over the term comes to that
puts a variable behind those it has met, unless it is one of them (`variableNames_eq_collectVariables`).

An instance repeats the value of a variable wherever the variable stands, and values may share variables with each
other and with what is left unbound.  Still the list for the instance can be told from the list for the template
and those for the values, in which nothing is repeated (`variableNames_substitute`).
-/

namespace TermSpace.Term

set_option autoImplicit false

/-! ## One walk -/

mutual

/-- A walk from left to right that lists each variable behind the others, unless it is listed already. -/
def collectVariables (listed : List String) : Term → List String
  | .atom name => if isVariableName name then addNew listed name else listed
  | .compound _ components => collectVariablesAll listed components

/-- The walk over components. -/
def collectVariablesAll (listed : List String) : List Term → List String
  | [] => listed
  | component :: rest => collectVariablesAll (collectVariables listed component) rest

end

@[simp] theorem collectVariablesAll_eq_foldl (listed : List String) (components : List Term) :
    collectVariablesAll listed components = components.foldl collectVariables listed := by
  induction components generalizing listed with
  | nil => rfl
  | cons component rest ih => rw [collectVariablesAll, ih, List.foldl_cons]

/-- The walk takes up the occurrences one after another. -/
theorem collectVariables_eq_foldl (listed : List String) (term : Term) :
    term.collectVariables listed = term.variableOccurrences.foldl addNew listed := by
  induction term generalizing listed with
  | atom name =>
    rw [collectVariables, variableOccurrences]
    split <;> rfl
  | compound operator components ih =>
    rw [collectVariables, collectVariablesAll_eq_foldl, variableOccurrences,
      variableOccurrencesAll_eq_flatMap, List.foldl_flatMap]
    exact List.foldl_ext _ _ _ fun found component member => ih component member found

/-- **The variables of a term** are what the walk lists. -/
theorem variableNames_eq_collectVariables (term : Term) : term.variableNames = term.collectVariables [] := by
  rw [collectVariables_eq_foldl, foldl_addNew, variableNames]

/-! ## Instances -/

section Instances

variable {bindings : Bindings} {name : String} {term : Term}

/-- A closed term is one that lists no variable. -/
theorem variableNames_eq_nil_iff : term.variableNames = [] ↔ term.Closed := by
  simp only [Closed, List.eq_nil_iff_forall_not_mem, mem_variableNames]

theorem variableNames_variable (kind : isVariableName name = true) : (atom name).variableNames = [name] := by
  rw [variableNames, variableOccurrences, if_pos kind]
  exact eraseDups_of_nodup (List.nodup_singleton name)

/-- The variables of what stands for a variable are those of its value, or it is unbound and stands for itself. -/
theorem variableNames_image (kind : isVariableName name = true) :
    (bindings.image name).variableNames =
      match bindings.get? name with
      | some value => value.variableNames
      | none => [name] := by
  cases bound : bindings.get? name with
  | some value => rw [Bindings.image_of_get? bound]
  | none => simp only [Bindings.image, bound, Option.getD_none, variableNames_variable kind]

/-- What stands for a variable is closed just if it is a closed value. -/
theorem closed_image_iff (kind : isVariableName name = true) :
    (bindings.image name).Closed ↔ ∃ value, bindings.get? name = some value ∧ value.Closed := by
  cases bound : bindings.get? name with
  | some value => simp [Bindings.image_of_get? bound]
  | none => simp [Bindings.image, bound, closed_atom, kind]

theorem variableNames_substitute_image :
    (term.substitute bindings).variableNames =
      (term.variableNames.flatMap fun name => (bindings.image name).variableNames).eraseDups := by
  simp only [variableNames, variableOccurrences_substitute]
  rw [eraseDups_flatMap_eraseDups]
  exact eraseDups_flatMap_congr fun name _ => (eraseDups_eraseDups _).symm

theorem closed_substitute_iff :
    (term.substitute bindings).Closed ↔ ∀ name ∈ term.variableNames, (bindings.image name).Closed := by
  simp only [Closed, variableOccurrences_substitute, List.flatMap_eq_nil_iff, mem_variableNames]

end Instances

/-- **The variables of an instance.** Take the variables of the template in their order, put for each that is bound
the variables of its value, leave each that is unbound, and keep first occurrences only.  These are the variables of
the instance, in this order and none of them twice.  There are none just if every variable of the template is bound
to a closed term. -/
theorem variableNames_substitute (template : Term) (bindings : Bindings) :
    (template.substitute bindings).variableNames =
      (template.variableNames.flatMap fun name =>
        match bindings.get? name with
        | some value => value.variableNames
        | none => [name]).eraseDups ∧
    (template.substitute bindings).variableNames.Nodup ∧
    ((template.substitute bindings).variableNames = [] ↔
      ∀ name ∈ template.variableNames, ∃ value, bindings.get? name = some value ∧ value.Closed) := by
  have isVariable : ∀ name ∈ template.variableNames, isVariableName name = true := fun name member =>
    isVariableName_of_mem_variableOccurrences (mem_variableNames.1 member)
  refine ⟨?_, nodup_eraseDups _, ?_⟩
  · rw [variableNames_substitute_image]
    congr 1
    exact List.flatMap_congr fun name member => variableNames_image (isVariable name member)
  · rw [variableNames_eq_nil_iff, closed_substitute_iff]
    exact forall₂_congr fun name member => closed_image_iff (isVariable name member)

/-- The values share `$w`.  One of them has the unbound `$y`, which stands in the template too, and the other has
`$x`, which is not put in again.  With closed values nothing is left. -/
theorem variableNames_substitute_sharing :
    let template : Term := .compound "f" [.atom "$x", .atom "$y", .atom "$x", .atom "$z"]
    let first : Term := .compound "g" [.atom "$y", .atom "$w"]
    let second : Term := .compound "g" [.atom "$w", .atom "$x"]
    let sharing : Bindings := (Dict.insert ∅ "$x" first).insert "$z" second
    let closing : Bindings := ((Dict.insert ∅ "$x" (.atom "a")).insert "$y" (.atom "b")).insert "$z" (.atom "c")
    (template.substitute sharing).variableNames = ["$y", "$w", "$x"] ∧
    (∀ name ∈ template.variableNames, ∃ value, closing.get? name = some value ∧ value.Closed) ∧
    (template.substitute closing).variableNames = [] := by
  intro template first second sharing closing
  have closed : ∀ name ∈ template.variableNames, ∃ value, closing.get? name = some value ∧ value.Closed := by
    rw [show template.variableNames = ["$x", "$y", "$z"] by decide]
    simp only [List.forall_mem_cons]
    exact ⟨⟨.atom "a", rfl, rfl⟩, ⟨.atom "b", rfl, rfl⟩, ⟨.atom "c", rfl, rfl⟩, nofun⟩
  refine ⟨?_, closed, (variableNames_substitute template closing).2.2.2 closed⟩
  exact (variableNames_substitute template sharing).1.trans (by decide)

end TermSpace.Term
