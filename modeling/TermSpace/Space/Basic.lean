import TermSpace.Space.Rule

/-!
# Spaces

A space holds atoms, each once and in the order in which they came, and rules, in the order in which they
are tried.  The atoms are kept twice: as a list, which has their order, and as a set, in which they are
looked up.  A space may have a listener, who is told of every atom that is added, also of one that is there
already; what the listener has been told so far is part of the space.
-/

namespace TermSpace

set_option autoImplicit false

/-- A set of terms: the test whether a term is in it. -/
structure TermSet where
  contains : Term → Bool

namespace TermSet

/-- The set with nothing in it. -/
def empty : TermSet := ⟨fun _ => false⟩

/-- Put a term into a set. -/
def insert (set : TermSet) (term : Term) : TermSet :=
  ⟨fun other => other = term || set.contains other⟩

/-- Take a term out of a set. -/
def erase (set : TermSet) (term : Term) : TermSet :=
  ⟨fun other => other ≠ term && set.contains other⟩

@[simp] theorem contains_empty (term : Term) : empty.contains term = false := rfl

@[simp] theorem contains_insert (set : TermSet) (term other : Term) :
    (set.insert term).contains other ↔ other = term ∨ set.contains other := by
  simp [insert]

@[simp] theorem contains_erase (set : TermSet) (term other : Term) :
    (set.erase term).contains other ↔ other ≠ term ∧ set.contains other := by
  simp [erase]

end TermSet

/-- Atoms and rules. -/
structure Space where
  atoms : List Term
  /-- The atoms again, for look-up. -/
  index : TermSet
  rules : List Rule
  /-- What the listener has been told, first things first; `none` without a listener. -/
  told? : Option (List Term)
  distinct : atoms.Nodup
  indexed : ∀ atom, index.contains atom ↔ atom ∈ atoms

namespace Space

/-- The space with nothing in it and nobody listening. -/
def empty : Space := ⟨[], .empty, [], none, .nil, by simp⟩

instance : EmptyCollection Space := ⟨empty⟩

instance : Inhabited Space := ⟨empty⟩

/-- The space with a listener who has not been told anything yet. -/
def withListener (space : Space) : Space := { space with told? := some [] }

/-- Whether a term is among the atoms. -/
def contains (space : Space) (atom : Term) : Bool := space.index.contains atom

/-- The number of atoms. -/
def size (space : Space) : Nat := space.atoms.length

/-- Whether there are no atoms. -/
def isEmpty (space : Space) : Bool := space.atoms.isEmpty

/-- Add an atom after the others, unless it is there, and say whether it is new.  The listener is told in
either case. -/
def addAtom (space : Space) (atom : Term) : Bool × Space :=
  let told? := space.told?.map (· ++ [atom])
  if present : space.index.contains atom then (false, { space with told? })
  else
    (true,
      { space with
        told?
        atoms := space.atoms ++ [atom]
        index := space.index.insert atom
        distinct := by
          refine List.nodup_append.2 ⟨space.distinct, by simp, fun member inside other last same => ?_⟩
          rw [List.mem_singleton] at last
          exact present ((space.indexed atom).2 (last ▸ same ▸ inside))
        indexed := by simp [space.indexed, or_comm] })

/-- Take an atom out, and say whether it was there. -/
def removeAtom (space : Space) (atom : Term) : Bool × Space :=
  if space.index.contains atom then
    (true,
      { space with
        atoms := space.atoms.filter (· ≠ atom)
        index := space.index.erase atom
        distinct := space.distinct.filter _
        indexed := by simp [space.indexed, and_comm] })
  else (false, space)

/-- Add a rule, to be tried after the others. -/
def addRule (space : Space) (rule : Rule) : Space := { space with rules := space.rules ++ [rule] }

/-- Drop all atoms and rules.  The listener stays. -/
def clear (space : Space) : Space :=
  { space with atoms := [], index := .empty, rules := [], distinct := .nil, indexed := by simp }

/-- The bindings of a pattern for each atom that it matches, in the order of the atoms. -/
def query (space : Space) (pattern : Term) : Except MatchError (List Bindings) :=
  Matching.findAll pattern space.atoms

end Space

end TermSpace
