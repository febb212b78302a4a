import TermSpace.Proofs.Term.Substitution

/-!
# One substitution after another

Two substitutions done one after the other are one substitution.  Its bindings are those of the first, with the
second put into their terms, and besides these the bindings of the second (`Bindings.followedBy`).  A term that the
first puts in is searched for variables by the second, so that the order counts.

Putting the same bindings in a second time changes nothing just if they leave alone the terms of the variables of
the template (`substitute_composes`), as they do with closed terms.
-/

namespace TermSpace

set_option autoImplicit false

namespace Bindings

/-- **The first bindings followed by the second.** What the first put in is searched by the second, and names that
the first do not know have the terms of the second. -/
def followedBy (first second : Bindings) : Bindings :=
  first.entries.foldr (fun entry both => both.insert entry.1 (entry.2.substitute second)) second

theorem get?_followedBy (first second : Bindings) (name : String) :
    (first.followedBy second).get? name =
      ((first.get? name).map (Term.substitute second)).or (second.get? name) := by
  rw [followedBy, show first.get? name = Dict.lookUp name first.entries from rfl]
  induction first.entries with
  | nil => rfl
  | cons entry rest ih =>
    rw [List.foldr_cons, Dict.get?_insert, ih, Dict.lookUp]
    split <;> rfl

/-- The image of a variable is searched by the second bindings, whether or not the first know the variable. -/
theorem image_followedBy (first second : Bindings) {name : String}
    (kind : Term.isVariableName name = true) :
    (first.followedBy second).image name = (first.image name).substitute second := by
  rw [image, get?_followedBy]
  cases bound : first.get? name with
  | none => simp [image, bound, Term.substitute, kind]
  | some value => simp [image, bound]

end Bindings

namespace Term

/-- What occurs as a variable is the name of one. -/
theorem isVariableName_of_mem_variableOccurrences {name : String} {term : Term}
    (occurs : name ∈ term.variableOccurrences) : isVariableName name = true := by
  induction term with
  | atom other =>
    rw [variableOccurrences] at occurs
    split at occurs
    · next kind => rwa [List.mem_singleton.1 occurs]
    · cases occurs
  | compound operator components ih =>
    rw [variableOccurrences, variableOccurrencesAll_eq_flatMap, List.mem_flatMap] at occurs
    obtain ⟨component, member, deeper⟩ := occurs
    exact ih component member deeper

/-- **One substitution after the other** is the substitution of both bindings together. -/
theorem substitute_followedBy (first second : Bindings) (template : Term) :
    template.substitute (first.followedBy second) = (template.substitute first).substitute second := by
  induction template with
  | atom name =>
    cases kind : isVariableName name with
    | true =>
      rw [substitute_variable _ kind, substitute_variable _ kind]
      exact Bindings.image_followedBy first second kind
    | false => rw [substitute_constant _ kind, substitute_constant _ kind, substitute_constant _ kind]
  | compound operator components ih =>
    simp only [substitute, substituteAll_eq_map, List.map_map, compound.injEq, true_and]
    exact List.map_congr_left ih

/-- **Two instances are the same** just if the variables of the template have the same images. -/
theorem substitute_eq_iff {first second : Bindings} {template : Term} :
    template.substitute first = template.substitute second ↔
      ∀ name ∈ template.variableOccurrences, first.image name = second.image name := by
  refine ⟨fun same => ?_, substitute_congr template⟩
  induction template with
  | atom name =>
    intro other occurs
    have kind := isVariableName_of_mem_variableOccurrences occurs
    obtain rfl : other = name := by
      rw [variableOccurrences] at occurs
      split at occurs
      · exact List.mem_singleton.1 occurs
      · cases occurs
    rwa [substitute_variable first kind, substitute_variable second kind] at same
  | compound operator components ih =>
    intro name occurs
    simp only [substitute, substituteAll_eq_map, compound.injEq, true_and] at same
    rw [variableOccurrences, variableOccurrencesAll_eq_flatMap, List.mem_flatMap] at occurs
    obtain ⟨component, member, deeper⟩ := occurs
    exact ih component member (List.map_inj_left.1 same component member) name deeper

/-- Bindings put in a second time change nothing just if they leave alone the terms of the variables. -/
theorem substitute_again_iff {bindings : Bindings} {template : Term} :
    (template.substitute bindings).substitute bindings = template.substitute bindings ↔
      ∀ name ∈ template.variableNames, ∀ value, bindings.get? name = some value →
        value.substitute bindings = value := by
  rw [← substitute_followedBy, substitute_eq_iff]
  refine forall_congr' fun name => ?_
  rw [mem_variableNames]
  refine forall_congr' fun occurs => ?_
  have kind := isVariableName_of_mem_variableOccurrences occurs
  rw [Bindings.image_followedBy bindings bindings kind]
  cases bound : bindings.get? name with
  | none => simp [Bindings.image, bound, substitute, kind]
  | some value => simp [Bindings.image_of_get? bound]

/-- **Substitution composes.** Two substitutions, one after the other, are that of the bindings together, which
give a name that the first know its term there with the second put in, and any other name what the second give it.
So putting bindings in a second time changes nothing just if they leave alone the term of each variable of the
template that they know, as they do if these terms are closed. -/
theorem substitute_composes :
    (∀ (first second : Bindings) (template : Term),
      (template.substitute first).substitute second = template.substitute (first.followedBy second)) ∧
    (∀ (first second : Bindings) (name : String), (first.followedBy second).get? name =
      match first.get? name with
      | some value => some (value.substitute second)
      | none => second.get? name) ∧
    (∀ (bindings : Bindings) (template : Term),
      (template.substitute bindings).substitute bindings = template.substitute bindings ↔
        ∀ name ∈ template.variableNames, ∀ value, bindings.get? name = some value →
          value.substitute bindings = value) ∧
    ∀ (bindings : Bindings) (template : Term),
      (∀ name ∈ template.variableNames, ∀ value, bindings.get? name = some value → value.Closed) →
      (template.substitute bindings).substitute bindings = template.substitute bindings := by
  refine ⟨fun first second template => (substitute_followedBy first second template).symm, ?_,
    fun bindings template => substitute_again_iff, ?_⟩
  · intro first second name
    rw [Bindings.get?_followedBy]
    cases first.get? name <;> rfl
  · intro bindings template closed
    refine substitute_again_iff.2 fun name occurs value bound => ?_
    exact (closed name occurs value bound).substitute bindings

/-- Both variables of the template become closed.  The entry under `c` is never used, and the one under `$z` would
be changed, but is the term of no variable of the template. -/
theorem substitute_composes_covering :
    let bindings : Bindings := ((Dict.insert ∅ "$x" (.atom "a")).insert "c" (.atom "b")).insert "$z" (.atom "$x")
    let template : Term := .compound "f" [.atom "$x", .atom "$y", .atom "c"]
    (∀ name ∈ template.variableNames, ∀ value, bindings.get? name = some value → value.Closed) ∧
    template.substitute bindings = .compound "f" [.atom "a", .atom "$y", .atom "c"] ∧
    (template.substitute bindings).substitute bindings = template.substitute bindings := by
  intro bindings template
  have closed : ∀ name ∈ template.variableNames, ∀ value, bindings.get? name = some value → value.Closed := by
    decide
  exact ⟨closed, rfl, substitute_composes.2.2.2 bindings template closed⟩

end Term

end TermSpace
