import TermSpace.Space.Basic
import TermSpace.Task

/-!
# Exchange with a reasoner

A reasoner takes in tasks, holds beliefs, and derives tasks from a task.  How it does so is its own
affair; here are the ways between a reasoner and a space.
-/

namespace TermSpace

set_option autoImplicit false

/-- What a reasoner can do, whatever its state is made of. -/
structure Reasoner (σ : Type) where
  /-- Take in a task. -/
  process : σ → Task → σ
  /-- The tasks that follow from a task. -/
  derive : σ → Task → List Task × σ
  /-- What is believed. -/
  beliefs : σ → List Task

/-- Add the terms of the judgments among some tasks to a space, up to the first that cannot be read, and
count the new ones after those already counted. -/
def Space.addJudgments (space : Space) (added : Nat) :
    List Task → Except Reader.ReadError Nat × Space
  | [] => (.ok added, space)
  | task :: rest =>
    if task.punctuation = .judgment then
      match task.readTerm with
      | .error problem => (.error problem, space)
      | .ok term =>
        let (new, next) := space.addAtom term
        next.addJudgments (if new then added + 1 else added) rest
    else space.addJudgments added rest

namespace Reasoner

variable {σ : Type}

/-- **Import.** Add the judgments that a reasoner believes to a space, and tell how many were new. -/
def importBeliefs (reasoner : Reasoner σ) (state : σ) (space : Space) :
    Except Reader.ReadError Nat × Space :=
  space.addJudgments 0 (reasoner.beliefs state)

/-- **Export.** Let a reasoner take in each atom of a space as a judgment, and tell how many there are. -/
def exportAtoms (reasoner : Reasoner σ) (state : σ) (space : Space) : Nat × σ :=
  (space.size,
    space.atoms.foldl (fun state atom => reasoner.process state (.ofTerm atom .judgment)) state)

/-- **Derivation.** The terms that follow from a term, asked as a question. -/
def deriveTerms (reasoner : Reasoner σ) (state : σ) (term : Term) :
    Except Reader.ReadError (List Term) × σ :=
  let (tasks, next) := reasoner.derive state (.ofTerm term .question)
  (tasks.mapM Task.readTerm, next)

end Reasoner

end TermSpace
