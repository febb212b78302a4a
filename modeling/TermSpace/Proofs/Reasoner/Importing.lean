import Mathlib.Data.List.Induction
import TermSpace.Proofs.Space.History
import TermSpace.Reasoner

/-!
# What is imported from a reasoner

Importing goes through what a reasoner believes, passes over what is no judgment, and adds the terms of the judgments
to a space until one cannot be read.  So what is imported is a first stretch of the judgments: all of them if they can
be read, and otherwise those before the first that cannot (`import_stretch`).  The number that is told is that of the
atoms that the space gains, which are fewer than the judgments if some have the same term or one that is there
already.

The loop is followed along a stretch of tasks whose terms can be read, with whatever tasks after it
(`addJudgments_append`), and it stops at the first task whose term cannot be.
-/

namespace TermSpace

set_option autoImplicit false

namespace Task

/-- The judgments among some tasks. -/
def judgments (tasks : List Task) : List Task := tasks.filter fun task => task.punctuation = .judgment

/-- **The terms of tasks** that can all be read, in the order of the tasks. -/
def ReadAs (tasks : List Task) (terms : List Term) : Prop :=
  List.Forall₂ (fun task term => task.readTerm = .ok term) tasks terms

/-- Tasks can all be read, or there is a first one that cannot. -/
theorem readAs_or_fails (tasks : List Task) :
    (∃ terms, ReadAs tasks terms) ∨ ∃ before task after terms problem,
      tasks = before ++ task :: after ∧ ReadAs before terms ∧ task.readTerm = .error problem := by
  induction tasks with
  | nil => exact .inl ⟨[], .nil⟩
  | cons task rest ih =>
    cases reads : task.readTerm with
    | error problem => exact .inr ⟨[], task, rest, [], problem, rfl, .nil, reads⟩
    | ok term =>
      rcases ih with ⟨terms, readsRest⟩ | ⟨before, other, after, terms, problem, rfl, readsBefore, fails⟩
      · exact .inl ⟨term :: terms, .cons reads readsRest⟩
      · exact .inr ⟨task :: before, other, after, term :: terms, problem, rfl, .cons reads readsBefore, fails⟩

end Task

namespace Space

/-! ## Adding atoms -/

/-- A space grows by an atom if that is new. -/
theorem size_addAtom (space : Space) (atom : Term) :
    (space.addAtom atom).2.size = if (space.addAtom atom).1 then space.size + 1 else space.size := by
  rw [addAtom]
  split <;> simp [size]

/-- **Adding atoms** puts those that are new behind the others, each once. -/
theorem atoms_performAll_addAtom (space : Space) (terms : List Term) :
    (space.performAll (terms.map .addAtom)).atoms = (space.atoms ++ terms).eraseDups := by
  induction terms using List.reverseRecOn with
  | nil => simp [performAll, eraseDups_of_nodup space.distinct]
  | append_singleton terms term ih =>
    have last : space.performAll ((terms ++ [term]).map .addAtom) =
        ((space.performAll (terms.map .addAtom)).addAtom term).2 := by
      simp [performAll, perform]
    simp only [last, atoms_addAtom, ih, ← List.append_assoc, eraseDups_concat, List.mem_eraseDups]

/-! ## Adding judgments -/

/-- What is no judgment is passed over. -/
theorem addJudgments_judgments (tasks : List Task) : ∀ (space : Space) (added : Nat),
    space.addJudgments added (Task.judgments tasks) = space.addJudgments added tasks := by
  induction tasks with
  | nil => exact fun _ _ => rfl
  | cons task rest ih =>
    intro space added
    rw [addJudgments, Task.judgments, List.filter_cons]
    by_cases isJudgment : task.punctuation = .judgment
    · simp only [isJudgment, decide_true, if_true, addJudgments]
      cases task.readTerm with
      | error problem => rfl
      | ok term => exact ih _ _
    · simp only [isJudgment, decide_false, Bool.false_eq_true, if_false]
      exact ih space added

/-- **Judgments that can be read** are added, and as many counted as the space grows by, whatever tasks come
afterwards. -/
theorem addJudgments_append {before : List Task} {terms : List Term} (reads : Task.ReadAs before terms)
    (only : ∀ task ∈ before, task.punctuation = .judgment) (space : Space) :
    ∃ grown, (space.performAll (terms.map .addAtom)).size = space.size + grown ∧
      ∀ added rest, space.addJudgments added (before ++ rest) =
        (space.performAll (terms.map .addAtom)).addJudgments (added + grown) rest := by
  induction reads generalizing space with
  | nil => exact ⟨0, rfl, fun added rest => rfl⟩
  | @cons task term before terms readsFirst _ ih =>
    rw [List.forall_mem_cons] at only
    obtain ⟨grown, size, runs⟩ := ih only.2 (space.addAtom term).2
    have next : ∀ added rest, space.addJudgments added (task :: before ++ rest) =
        ((space.addAtom term).2.performAll (terms.map .addAtom)).addJudgments
          ((if (space.addAtom term).1 then added + 1 else added) + grown) rest := fun added rest => by
      rw [List.cons_append, addJudgments, if_pos only.1, readsFirst]
      exact runs _ rest
    rw [size_addAtom] at size
    -- Whether the term is new decides the size and the count alike.
    cases new : (space.addAtom term).1 with
    | false =>
      simp only [new, Bool.false_eq_true, if_false] at size next
      exact ⟨grown, size, next⟩
    | true =>
      simp only [new, if_true, Nat.add_right_comm _ 1] at size next
      exact ⟨grown + 1, size, next⟩

end Space

namespace Reasoner

variable {σ : Type}

/-- **A first stretch of the judgments is imported.** If the terms of all judgments can be read they are added in
order, and the number told is that by which the space grows.  If one cannot be read that comes after judgments that
can, the terms of these are added, and the import fails with the error of that one.  One of the two is always the case.
Adding terms in order puts those that are new behind the atoms of the space, each once. -/
theorem import_stretch (reasoner : Reasoner σ) (state : σ) (space : Space) :
    (∀ terms, Task.ReadAs (Task.judgments (reasoner.beliefs state)) terms →
      ∃ grown, (space.performAll (terms.map .addAtom)).size = space.size + grown ∧
        reasoner.importBeliefs state space = (.ok grown, space.performAll (terms.map .addAtom))) ∧
    (∀ before task after terms problem,
      Task.judgments (reasoner.beliefs state) = before ++ task :: after → Task.ReadAs before terms →
      task.readTerm = .error problem →
      reasoner.importBeliefs state space = (.error problem, space.performAll (terms.map .addAtom))) ∧
    ((∃ terms, Task.ReadAs (Task.judgments (reasoner.beliefs state)) terms) ∨
      ∃ before task after terms problem,
        Task.judgments (reasoner.beliefs state) = before ++ task :: after ∧ Task.ReadAs before terms ∧
        task.readTerm = .error problem) ∧
    ∀ terms, (space.performAll (terms.map .addAtom)).atoms = (space.atoms ++ terms).eraseDups := by
  have only : ∀ task ∈ Task.judgments (reasoner.beliefs state), task.punctuation = .judgment :=
    fun task member => by simpa using (List.mem_filter.1 member).2
  rw [importBeliefs, ← Space.addJudgments_judgments]
  refine ⟨fun terms reads => ?_, fun before task after terms problem split reads fails => ?_,
    Task.readAs_or_fails _, space.atoms_performAll_addAtom⟩
  · obtain ⟨grown, size, runs⟩ := Space.addJudgments_append reads only space
    have whole := runs 0 []
    rw [List.append_nil, Nat.zero_add] at whole
    exact ⟨grown, size, whole⟩
  · -- The loop goes through what can be read and meets the judgment that cannot be.
    rw [split] at only ⊢
    obtain ⟨grown, -, runs⟩ := Space.addJudgments_append reads
      (fun earlier member => only earlier (List.mem_append_left _ member)) space
    rw [runs, Space.addJudgments, if_pos (only task (by simp)), fails]

/-- The reasoner that remembers its tasks, and answers a task with those of the same term. -/
def memory : Reasoner (List Task) where
  process held task := held ++ [task]
  derive held task := (held.filter fun kept => kept.term = task.term, held)
  beliefs held := held

/-- A question that cannot be read does no harm, and what is there or comes again is not counted.  A judgment that
cannot be read stops the import after what comes before it. -/
theorem import_stretch_memory :
    let held : List Task := [⟨"b", .judgment, none⟩, ⟨"(a", .question, none⟩, ⟨"(a c)", .judgment, none⟩,
      ⟨"( a c )", .judgment, none⟩]
    let space := (Space.empty.addAtom (.atom "b")).2
    (∃ filled : Space, filled.atoms = [.atom "b", .apply (.atom "a") [.atom "c"]] ∧
      memory.importBeliefs held space = (.ok 1, filled)) ∧
    ∃ (problem : Reader.ReadError) (filled : Space),
      filled.atoms = [.atom "b", .apply (.atom "a") [.atom "c"]] ∧
      memory.importBeliefs (held ++ [⟨"(a", .judgment, none⟩, ⟨"d", .judgment, none⟩]) space =
        (.error problem, filled) := by
  intro held space
  have reads : Task.ReadAs (Task.judgments held)
      [.atom "b", .apply (.atom "a") [.atom "c"], .apply (.atom "a") [.atom "c"]] :=
    .cons rfl (.cons rfl (.cons rfl .nil))
  obtain ⟨problem, fails⟩ : ∃ problem, Task.readTerm ⟨"(a", .judgment, none⟩ = .error problem := ⟨_, rfl⟩
  obtain ⟨whole, -, -, atoms⟩ := import_stretch memory held space
  obtain ⟨-, part, -, -⟩ := import_stretch memory
    (held ++ [⟨"(a", .judgment, none⟩, ⟨"d", .judgment, none⟩]) space
  have filled : (space.performAll ([.atom "b", .apply (.atom "a") [.atom "c"],
      .apply (.atom "a") [.atom "c"]].map .addAtom)).atoms =
        [.atom "b", .apply (.atom "a") [.atom "c"]] := by
    rw [atoms]
    decide
  obtain ⟨grown, size, imports⟩ := whole _ reads
  obtain rfl : grown = 1 := by
    rw [Space.size, filled] at size
    exact Nat.add_left_cancel size.symm
  exact ⟨⟨_, filled, imports⟩, problem, _, filled, part _ _ _ _ _ rfl reads fails⟩

end Reasoner

end TermSpace
