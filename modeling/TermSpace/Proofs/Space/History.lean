import Mathlib.Data.List.Basic
import TermSpace.Proofs.List.FirstOccurrences
import TermSpace.Space.Basic

/-!
# Spaces and their histories

What a space holds is a matter of what was done to it.  An addition *lasts* if its atom was not removed and
the space not cleared afterwards.  The atoms are those of the additions that last, each at the place of the
first of them; the rules are those added since the space was cleared last; and the listener has been told of
every addition there ever was.

The three are read off the history alone (`lasting`, `standing`, `announced`), and each operation keeps the
space in step with them (`Reflects.perform`), the list of the atoms and the set for look-up alike.
-/

namespace TermSpace.Space

set_option autoImplicit false

/-! ## One operation -/

section Atoms

variable (space : Space) (atom : Term)

theorem contains_iff : space.contains atom ↔ atom ∈ space.atoms := space.indexed atom

/-- An atom is new if it is not there. -/
theorem addAtom_new : (space.addAtom atom).1 ↔ atom ∉ space.atoms := by
  rw [← space.indexed atom, addAtom]
  split <;> simp_all

/-- A new atom comes last. -/
theorem atoms_addAtom : (space.addAtom atom).2.atoms =
    if atom ∈ space.atoms then space.atoms else space.atoms ++ [atom] := by
  simp only [← space.indexed atom, addAtom]
  split <;> rfl

theorem rules_addAtom : (space.addAtom atom).2.rules = space.rules := by
  rw [addAtom]
  split <;> rfl

/-- The listener is told in either case. -/
theorem told?_addAtom : (space.addAtom atom).2.told? = space.told?.map (· ++ [atom]) := by
  rw [addAtom]
  split <;> rfl

/-- An atom can be removed if it is there. -/
theorem removeAtom_present : (space.removeAtom atom).1 ↔ atom ∈ space.atoms := by
  rw [← space.indexed atom, removeAtom]
  split <;> simp_all

/-- The others keep their order. -/
theorem atoms_removeAtom :
    (space.removeAtom atom).2.atoms = space.atoms.filter (· ≠ atom) := by
  rw [removeAtom]
  split
  · rfl
  · next absent =>
    rw [space.indexed atom] at absent
    refine (List.filter_eq_self.2 fun other inside => ?_).symm
    exact decide_eq_true fun same => absent (same ▸ inside)

theorem rules_removeAtom : (space.removeAtom atom).2.rules = space.rules := by
  rw [removeAtom]
  split <;> rfl

theorem told?_removeAtom : (space.removeAtom atom).2.told? = space.told? := by
  rw [removeAtom]
  split <;> rfl

end Atoms

/-! ## Histories -/

/-- What may be done to a space. -/
inductive Operation where
  | addAtom (atom : Term)
  | removeAtom (atom : Term)
  | addRule (rule : Rule)
  | clear

/-- The space after an operation. -/
def perform (space : Space) : Operation → Space
  | .addAtom atom => (space.addAtom atom).2
  | .removeAtom atom => (space.removeAtom atom).2
  | .addRule rule => space.addRule rule
  | .clear => space.clear

/-- The space after some operations, the first one first. -/
def performAll (space : Space) (history : List Operation) : Space := history.foldl perform space

namespace Operation

/-- Whether an operation takes out an atom if it is there. -/
def drops (atom : Term) : Operation → Bool
  | .removeAtom other => other = atom
  | .clear => true
  | _ => false

/-- Whether an operation takes out the rules. -/
def clears : Operation → Bool
  | .clear => true
  | _ => false

/-- The atom that an operation adds. -/
def added? : Operation → Option Term
  | .addAtom atom => some atom
  | _ => none

/-- The rule that an operation adds. -/
def rule? : Operation → Option Rule
  | .addRule rule => some rule
  | _ => none

end Operation

/-- **The additions that last:** nothing takes their atoms out afterwards. -/
def lasting : List Operation → List Term
  | [] => []
  | .addAtom atom :: later =>
    if later.any (·.drops atom) then lasting later else atom :: lasting later
  | _ :: later => lasting later

/-- The rules that have been added since rules were taken out for the last time. -/
def standing : List Operation → List Rule
  | [] => []
  | .addRule rule :: later =>
    if later.any (·.clears) then standing later else rule :: standing later
  | _ :: later => standing later

/-- All additions. -/
def announced (history : List Operation) : List Term := history.filterMap (·.added?)

/-- An addition lasts that nothing follows which takes its atom out. -/
theorem mem_lasting {atom : Term} {history : List Operation} :
    atom ∈ lasting history ↔ ∃ earlier later, history = earlier ++ .addAtom atom :: later ∧
      ∀ operation ∈ later, ¬ operation.drops atom := by
  induction history with
  | nil => simp [lasting]
  | cons operation history ih =>
    have inside : (∃ earlier later, operation :: history = earlier ++ .addAtom atom :: later ∧
          ∀ operation ∈ later, ¬ operation.drops atom) ↔
        (operation = .addAtom atom ∧ ∀ operation ∈ history, ¬ operation.drops atom) ∨
          atom ∈ lasting history := by
      rw [ih]
      constructor
      · rintro ⟨earlier, later, same, kept⟩
        cases earlier with
        | nil =>
          cases same
          exact .inl ⟨rfl, kept⟩
        | cons first earlier =>
          cases same
          exact .inr ⟨earlier, later, rfl, kept⟩
      · rintro (⟨rfl, kept⟩ | ⟨earlier, later, rfl, kept⟩)
        · exact ⟨[], history, rfl, kept⟩
        · exact ⟨operation :: earlier, later, rfl, kept⟩
    rw [inside]
    cases operation with
    | addAtom other =>
      rw [lasting]
      split
      · next dropped =>
        obtain ⟨operation, member, drops⟩ := List.any_eq_true.1 dropped
        refine ⟨.inr, ?_⟩
        rintro (⟨same, kept⟩ | later)
        · cases same
          exact absurd drops (kept operation member)
        · exact later
      · next kept =>
        rw [List.mem_cons]
        refine or_congr_left ⟨?_, ?_⟩
        · rintro rfl
          exact ⟨rfl, fun operation member drops => kept (List.any_eq_true.2 ⟨operation, member, drops⟩)⟩
        · rintro ⟨same, -⟩
          cases same
          rfl
    | removeAtom other => simp [lasting]
    | addRule rule => simp [lasting]
    | clear => simp [lasting]

/-- An operation takes atoms out and adds one. -/
theorem lasting_concat (history : List Operation) (operation : Operation) :
    lasting (history ++ [operation]) =
      (lasting history).filter (fun atom => !operation.drops atom) ++ operation.added?.toList := by
  induction history with
  | nil => cases operation <;> rfl
  | cons first history ih =>
    cases first with
    | addAtom atom =>
      simp only [List.cons_append, lasting, List.any_append, ih]
      cases history.any (·.drops atom) <;> cases drops : operation.drops atom <;> simp [drops]
    | removeAtom atom => exact ih
    | addRule rule => exact ih
    | clear => exact ih

theorem standing_concat (history : List Operation) (operation : Operation) :
    standing (history ++ [operation]) =
      (if operation.clears then [] else standing history) ++ operation.rule?.toList := by
  induction history with
  | nil => cases operation <;> rfl
  | cons first history ih =>
    cases first with
    | addRule rule =>
      simp only [List.cons_append, standing, List.any_append, ih]
      cases history.any (·.clears) <;> cases clears : operation.clears <;> simp [clears]
    | addAtom atom => exact ih
    | removeAtom atom => exact ih
    | clear => exact ih

theorem announced_concat (history : List Operation) (operation : Operation) :
    announced (history ++ [operation]) = announced history ++ operation.added?.toList := by
  cases operation <;> simp [announced, Operation.added?]

/-! ## Spaces that reflect a history -/

/-- A space with a listener holds what a history says. -/
structure Reflects (space : Space) (history : List Operation) : Prop where
  atoms : space.atoms = (lasting history).eraseDups
  rules : space.rules = standing history
  told : space.told? = some (announced history)

/-- At first nothing has happened. -/
theorem reflects_nil : Reflects empty.withListener [] := ⟨rfl, rfl, rfl⟩

/-- **One operation** keeps a space in step with its history. -/
theorem Reflects.perform {space : Space} {history : List Operation} (reflects : space.Reflects history)
    (operation : Operation) : (space.perform operation).Reflects (history ++ [operation]) := by
  obtain ⟨atoms, rules, told⟩ := reflects
  cases operation with
  | addAtom atom =>
    refine ⟨?_, ?_, ?_⟩
    · rw [Space.perform, atoms_addAtom, lasting_concat, atoms]
      simp [Operation.drops, Operation.added?, eraseDups_concat, List.mem_eraseDups]
    · rw [Space.perform, rules_addAtom, standing_concat, rules]
      simp [Operation.clears, Operation.rule?]
    · rw [Space.perform, told?_addAtom, announced_concat, told]
      rfl
  | removeAtom atom =>
    refine ⟨?_, ?_, ?_⟩
    · rw [Space.perform, atoms_removeAtom, lasting_concat, atoms, ← eraseDups_filter]
      simp [Operation.drops, Operation.added?, eq_comm]
    · rw [Space.perform, rules_removeAtom, standing_concat, rules]
      simp [Operation.clears, Operation.rule?]
    · rw [Space.perform, told?_removeAtom, announced_concat, told]
      simp [Operation.added?]
  | addRule rule =>
    refine ⟨?_, ?_, ?_⟩
    · rw [lasting_concat]
      simpa [Space.perform, addRule, Operation.drops, Operation.added?] using atoms
    · rw [standing_concat, ← rules]
      rfl
    · rw [announced_concat]
      simpa [Space.perform, addRule, Operation.added?] using told
  | clear =>
    refine ⟨?_, ?_, ?_⟩
    · rw [lasting_concat]
      simp [Space.perform, clear, Operation.drops, Operation.added?]
    · rw [standing_concat]
      rfl
    · rw [announced_concat]
      simpa [Space.perform, clear, Operation.added?] using told

/-- **All operations.** -/
theorem reflects_performAll (history : List Operation) :
    (empty.withListener.performAll history).Reflects history := by
  have run : ∀ (later : List Operation) {space : Space} {earlier : List Operation},
      space.Reflects earlier → (space.performAll later).Reflects (earlier ++ later) := by
    intro later
    induction later with
    | nil =>
      intro space earlier reflects
      simpa [performAll] using reflects
    | cons operation later ih =>
      intro space earlier reflects
      simpa [performAll] using ih (reflects.perform operation)
  exact run history reflects_nil

/-- **A space is an ordered set with a log.** Whatever has been done to a space with a listener, its atoms are
those of the additions that last, without repetition and in the order of the first of these additions, and the
set for look-up has the same atoms in it.  Adding an atom says whether it is new and puts a new one last;
removing an atom says whether it was there and leaves the others as they are; neither touches the rules, which
are those added since the space was cleared last.  The listener has been told of every addition. -/
theorem performAll_orderedSet (history : List Operation) :
    let space := empty.withListener.performAll history
    space.atoms = (lasting history).eraseDups ∧ space.atoms.Nodup ∧
    (∀ atom, space.index.contains atom ↔ atom ∈ space.atoms) ∧
    (∀ atom, (space.contains atom ↔ atom ∈ space.atoms) ∧
      (space.contains atom ↔ ∃ earlier later, history = earlier ++ .addAtom atom :: later ∧
        ∀ operation ∈ later, ¬ operation.drops atom)) ∧
    space.size = space.atoms.length ∧
    (∀ atom, ((space.addAtom atom).1 ↔ atom ∉ space.atoms) ∧
      (space.addAtom atom).2.atoms =
        (if atom ∈ space.atoms then space.atoms else space.atoms ++ [atom]) ∧
      (space.addAtom atom).2.rules = space.rules) ∧
    (∀ atom, ((space.removeAtom atom).1 ↔ atom ∈ space.atoms) ∧
      (space.removeAtom atom).2.atoms = space.atoms.erase atom ∧
      (space.removeAtom atom).2.rules = space.rules) ∧
    space.rules = standing history ∧ space.told? = some (announced history) := by
  intro space
  obtain ⟨atoms, rules, told⟩ := reflects_performAll history
  refine ⟨atoms, space.distinct, space.indexed, fun atom => ⟨space.contains_iff atom, ?_⟩, rfl,
    fun atom => ⟨space.addAtom_new atom, space.atoms_addAtom atom, space.rules_addAtom atom⟩,
    fun atom => ⟨space.removeAtom_present atom, ?_, space.rules_removeAtom atom⟩, rules, told⟩
  · rw [contains_iff, atoms, List.mem_eraseDups, mem_lasting]
  · rw [atoms_removeAtom, space.distinct.erase_eq_filter]
    exact List.filter_congr fun other _ => by rw [Bool.eq_iff_iff]; simp

/-- An atom that comes back comes last. -/
example : (empty.withListener.performAll [.addAtom (.atom "a"), .addAtom (.atom "b"),
    .removeAtom (.atom "a"), .addAtom (.atom "b"), .addAtom (.atom "a")]).atoms =
      [.atom "b", .atom "a"] := by
  decide

end TermSpace.Space
