import Mathlib.Data.List.Forall2
import TermSpace.Grounded.Builtins
import TermSpace.Proofs.Matching.Instances
import TermSpace.Proofs.Space.History

/-!
# Queries over closed atoms

A query goes through the atoms of a space in their order and keeps the bindings of those that its pattern
matches.  Where the atoms have no variables, these are the instances of the pattern, each with the one solution
that there is for it (`query_closed`): none is missed, none is made up, and no match is without an outcome.

`&match` puts the solutions into a template.  Its answer has one entry for each instance, and variables of the
template that the pattern does not have stay where they are.  With the pattern for the template the entries are
the instances themselves, so that the answer is the part of the space that the pattern describes
(`execute_match_closed`).
-/

namespace TermSpace

set_option autoImplicit false

namespace Space

open Classical in
/-- The atoms that are instances of a pattern, in their order. -/
noncomputable def instances (space : Space) (pattern : Term) : List Term :=
  space.atoms.filter fun atom => atom.InstanceOf pattern

end Space

namespace Matching

open Classical in
/-- Matching a pattern against closed terms finds the one solution for each instance among them. -/
theorem findAll_instances (pattern : Term) {terms : List Term} (closed : ∀ term ∈ terms, term.Closed) :
    ∃ found, findAll pattern terms = .ok found ∧
      List.Forall₂ (SoleSolution pattern) (terms.filter fun term => term.InstanceOf pattern) found := by
  induction terms with
  | nil => exact ⟨[], rfl, .nil⟩
  | cons term rest ih =>
    rw [List.forall_mem_cons] at closed
    obtain ⟨others, outcome, solutions⟩ := ih closed.2
    rcases find_closed pattern closed.1 with ⟨inside, bindings, here, sole⟩ | ⟨outside, here⟩
    · refine ⟨bindings :: others, ?_, ?_⟩
      · rw [findAll, here, outcome]
        rfl
      · rw [List.filter_cons_of_pos (by simpa using inside)]
        exact .cons sole solutions
    · refine ⟨others, ?_, ?_⟩
      · rw [findAll, here, outcome]
        rfl
      · rwa [List.filter_cons_of_neg (by simpa using outside)]

end Matching

namespace Space

variable {space : Space}

/-- **A query over closed atoms** has one solution for each instance of the pattern. -/
theorem query_closed (closed : ∀ atom ∈ space.atoms, atom.Closed) (pattern : Term) :
    ∃ found, space.query pattern = .ok found ∧
      List.Forall₂ (Matching.SoleSolution pattern) (space.instances pattern) found :=
  Matching.findAll_instances pattern closed

/-- The instances are atoms of the space, each once. -/
theorem mem_instances {pattern atom : Term} :
    atom ∈ space.instances pattern ↔ atom ∈ space.atoms ∧ atom.InstanceOf pattern := by
  simp [instances]

theorem nodup_instances (space : Space) (pattern : Term) : (space.instances pattern).Nodup :=
  space.distinct.filter _

end Space

namespace Builtins

/-- Matching in the space of the caller is a query. -/
theorem execute_match (space : Space) (pattern template : Term) :
    registry.execute space "&match" [.atom selfName, pattern, template] =
      match space.query pattern with
      | .error problem => .error (.matching problem)
      | .ok found => .ok (.product (found.map fun bindings => template.substitute bindings)) := rfl

/-- **Queries over closed atoms are exact.** The answer is the product with one entry for each atom that is an
instance of the pattern, in the order of the atoms: the template under the one solution that turns the pattern into
the atom.  If the template is the pattern, the entries are the instances, a part of the atoms without repetition. -/
theorem execute_match_closed {space : Space} (closed : ∀ atom ∈ space.atoms, atom.Closed) (pattern : Term) :
    (∀ template, ∃ entries,
      registry.execute space "&match" [.atom selfName, pattern, template] = .ok (.product entries) ∧
      List.Forall₂ (fun atom entry => ∃ bindings, Matching.SoleSolution pattern atom bindings ∧
        entry = template.substitute bindings) (space.instances pattern) entries) ∧
    registry.execute space "&match" [.atom selfName, pattern, pattern] =
      .ok (.product (space.instances pattern)) ∧
    (space.instances pattern).Sublist space.atoms ∧ (space.instances pattern).Nodup ∧
    ∀ atom, atom ∈ space.instances pattern ↔ atom ∈ space.atoms ∧ atom.InstanceOf pattern := by
  obtain ⟨found, outcome, solutions⟩ := space.query_closed closed pattern
  have answer : ∀ template, registry.execute space "&match" [.atom selfName, pattern, template] =
      .ok (.product (found.map fun bindings => template.substitute bindings)) := by
    intro template
    rw [execute_match, outcome]
  have same : found.map (fun bindings => pattern.substitute bindings) = space.instances pattern := by
    have each : List.Forall₂ (fun atom entry => atom = entry) (space.instances pattern)
        (found.map fun bindings => pattern.substitute bindings) :=
      List.forall₂_map_right_iff.2 (solutions.imp fun atom bindings sole => sole.instance_eq.symm)
    rw [List.forall₂_eq_eq_eq] at each
    exact each.symm
  refine ⟨fun template => ⟨_, answer template, ?_⟩, ?_, List.filter_sublist, space.nodup_instances pattern,
    fun atom => space.mem_instances⟩
  · exact List.forall₂_map_right_iff.2 (solutions.imp fun atom bindings sole => ⟨bindings, sole, rfl⟩)
  · rw [answer pattern, same]

/-- A space with three pairs, the second of which has two different sides. -/
def pairs : Space :=
  let pair (left right : String) : Term := .compound "pair" [.atom left, .atom right]
  Space.performAll ∅ [.addAtom (pair "a" "a"), .addAtom (pair "a" "b"), .addAtom (pair "b" "b")]

/-- A variable that occurs twice picks the two pairs of equal sides, and a variable that is only in the template
stays. -/
theorem execute_match_closed_pairs :
    let pattern : Term := .compound "pair" [.atom "$x", .atom "$x"]
    (∀ atom ∈ pairs.atoms, atom.Closed) ∧
    registry.execute pairs "&match" [.atom "&self", pattern, .compound "both" [.atom "$x", .atom "$y"]] =
      .ok (.product [.compound "both" [.atom "a", .atom "$y"], .compound "both" [.atom "b", .atom "$y"]]) ∧
    pairs.instances pattern =
      [.compound "pair" [.atom "a", .atom "a"], .compound "pair" [.atom "b", .atom "b"]] := by
  intro pattern
  have closed : ∀ atom ∈ pairs.atoms, atom.Closed := by decide
  have answer : registry.execute pairs "&match" [.atom selfName, pattern, pattern] =
      .ok (.product [.compound "pair" [.atom "a", .atom "a"], .compound "pair" [.atom "b", .atom "b"]]) := rfl
  have same := (execute_match_closed closed pattern).2.1
  rw [answer] at same
  refine ⟨closed, rfl, ?_⟩
  simpa [Term.product] using same.symm

end Builtins

end TermSpace
