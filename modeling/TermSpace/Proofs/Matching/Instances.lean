import TermSpace.Proofs.Matching.Exact
import TermSpace.Proofs.Term.Composition

/-!
# Instances of a pattern

A term is an instance of a pattern if bindings turn the pattern into it.  Instances of instances are instances:
what two substitutions do one after the other, one does alone, as long as it gives the variables of the pattern
the right images (`InstanceOf.trans`).  This takes no more of the bindings than that.  They may give two
variables the same term, put variables into it, or leave variables as they are.

Against a closed term, matching tells whether it is an instance, and of the bindings that make it one it finds
those that every other agrees with on the pattern (`SoleSolution`, `find_closed`).  So whenever an instance of a
pattern matches a closed term, the pattern does (`find_eq_none_iff`).
-/

namespace TermSpace

set_option autoImplicit false

namespace Term

/-- The term is what bindings make of the pattern. -/
def InstanceOf (term pattern : Term) : Prop := ∃ bindings : Bindings, pattern.substitute bindings = term

/-- **Instances of instances are instances.** -/
theorem InstanceOf.trans {term middle pattern : Term} (inner : term.InstanceOf middle)
    (outer : middle.InstanceOf pattern) : term.InstanceOf pattern := by
  obtain ⟨second, rfl⟩ := inner
  obtain ⟨first, rfl⟩ := outer
  exact ⟨first.followedBy second, substitute_followedBy first second pattern⟩

end Term

namespace Matching

/-- **The one solution of a pattern for a term:** bindings of just the variables of the pattern that turn it into
the term, which all other bindings that do so agree with. -/
structure SoleSolution (pattern term : Term) (bindings : Bindings) : Prop where
  binds : ∀ name, bindings.contains name ↔ name ∈ pattern.variableNames
  instance_eq : pattern.substitute bindings = term
  unique : ∀ other : Bindings, pattern.substitute other = term →
    ∀ name ∈ pattern.variableNames, other.image name = bindings.image name

/-- An exact solution where nothing is bound at first. -/
theorem ExactSolution.sole {pattern term : Term} {bindings : Bindings}
    (exact : ExactSolution pattern term ∅ bindings) : SoleSolution pattern term bindings where
  binds name := by simpa [Dict.contains] using exact.adds name
  instance_eq := exact.instance_eq
  unique other := exact.unique other fun name value bound => by cases bound

/-- **Matching against a closed term** finds the one solution if the term is an instance, and fails if it is
none. -/
theorem find_closed (pattern : Term) {term : Term} (closed : term.Closed) :
    (term.InstanceOf pattern ∧ ∃ bindings, find pattern term = .ok (some bindings) ∧
      SoleSolution pattern term bindings) ∨
    (¬ term.InstanceOf pattern ∧ find pattern term = .ok none) := by
  have tame : Tame pattern.variableOccurrences [term] ∅ :=
    ⟨.inl (by simpa using closed), fun name _ value bound => by cases bound⟩
  obtain ⟨answer, outcome, succeeds, exact⟩ := (answers_extend pattern term ∅ tame).exact
  have found : (∃ solution, answer = some solution) ↔ term.InstanceOf pattern :=
    succeeds.trans (exists_congr fun other => and_iff_right fun name value bound => by cases bound)
  cases answer with
  | none => exact .inr ⟨fun instance' => by simpa using found.2 instance', outcome⟩
  | some bindings => exact .inl ⟨found.1 ⟨bindings, rfl⟩, bindings, outcome, (exact bindings rfl).sole⟩

/-- **A closed term is matched by what it is an instance of.** -/
theorem find_eq_none_iff (pattern : Term) {term : Term} (closed : term.Closed) :
    find pattern term = .ok none ↔ ¬ term.InstanceOf pattern := by
  rcases find_closed pattern closed with ⟨inside, bindings, outcome, -⟩ | ⟨outside, outcome⟩
  · simp [outcome, inside]
  · simp [outcome, outside]

end Matching

end TermSpace
