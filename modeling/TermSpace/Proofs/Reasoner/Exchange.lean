import TermSpace.Proofs.Reader.Statements
import TermSpace.Proofs.Reasoner.Importing
import TermSpace.Proofs.Session.Failure

/-!
# Atoms out to a reasoner and back

Atoms are sent to a reasoner as judgments with their canonical text, and judgments that come back are read and
added to a space.  With a reasoner that keeps its tasks in order, the atoms that come back into an empty space
are those that were sent, in their order (`import_export`).  Two things make this so.  Canonical text is read as
the atom that it is of if the atom is readable, which all atoms are that were ever read from a text.  And a space
holds no atom twice, so that no atom that comes back falls together with another one.

Loading adds nothing but terms of the program to a space.  So what has been filled by loading has readable atoms
only (`readable_of_filledByLoading`).
-/

namespace TermSpace

set_option autoImplicit false

/-! ## Spaces filled by loading -/

/-- Adding an atom adds no other. -/
theorem Space.mem_atoms_addAtom {space : Space} {added atom : Term}
    (member : atom ∈ (space.addAtom added).2.atoms) : atom ∈ space.atoms ∨ atom = added := by
  rw [atoms_addAtom] at member
  split at member
  · exact .inl member
  · exact (List.mem_append.1 member).imp id List.mem_singleton.1

namespace Session

/-- **Sessions whose space is filled by loading alone.** It has no atoms at first, programs are loaded, and what
is done besides adds none. -/
inductive FilledByLoading : Session → Prop where
  | start {session : Session} (empty : session.space.atoms = []) : FilledByLoading session
  | load {session : Session} (text : String) (filled : FilledByLoading session) :
      FilledByLoading (session.load text).2
  | besides {session next : Session} (filled : FilledByLoading session)
      (nothingNew : next.space.atoms ⊆ session.space.atoms) : FilledByLoading next

/-- A statement adds no atom but its term. -/
theorem mem_atoms_of_run {session next : Session} {statement : Reader.Statement} {result? : Option Term}
    (runs : session.run statement = .ok (result?, next)) {atom : Term}
    (member : atom ∈ next.space.atoms) : atom ∈ session.space.atoms ∨ atom = statement.term := by
  induction statement using statementCases with
  | evaluation term =>
    rw [run_evaluation] at runs
    cases evaluates : session.evaluate term with
    | error problem => simp [evaluates, Except.mapError, Except.map] at runs
    | ok result =>
      rw [evaluates] at runs
      cases runs
      exact .inl member
  | equation pattern result =>
    rw [run_equation] at runs
    cases runs
    exact .inl member
  | declaration name expression =>
    rw [run_declaration] at runs
    cases reads : Ty.ofTerm expression session.supply with
    | error problem => simp [reads, Except.mapError, Except.map] at runs
    | ok result =>
      rw [reads] at runs
      cases runs
      simp only [declare_eq] at member
      exact Space.mem_atoms_addAtom member
  | other term noEquation noDeclaration =>
    rw [run_other session noEquation noDeclaration] at runs
    cases runs
    exact Space.mem_atoms_addAtom member

/-- Statements add no atoms but their terms, also if one of them fails. -/
theorem mem_atoms_runAll {atom : Term} (statements : List Reader.Statement) : ∀ {session : Session},
    atom ∈ (session.runAll statements).2.space.atoms →
      atom ∈ session.space.atoms ∨ ∃ statement ∈ statements, atom = statement.term := by
  induction statements with
  | nil =>
    intro session member
    exact .inl member
  | cons statement rest ih =>
    intro session member
    rw [runAll] at member
    cases runs : session.run statement with
    | error problem =>
      rw [runs] at member
      exact .inl member
    | ok result =>
      rw [runs] at member
      rcases ih member with before | ⟨later, inside, same⟩
      · rcases mem_atoms_of_run runs before with earlier | here
        · exact .inl earlier
        · exact .inr ⟨statement, List.mem_cons_self, here⟩
      · exact .inr ⟨later, List.mem_cons_of_mem _ inside, same⟩

/-- **What is filled by loading** has readable atoms. -/
theorem readable_of_filledByLoading {session : Session} (filled : FilledByLoading session) :
    ∀ atom ∈ session.space.atoms, Reader.Readable atom := by
  induction filled with
  | start empty => simp [empty]
  | @load session text _ ih =>
    intro atom member
    rw [load] at member
    cases reads : Reader.readProgram text with
    | error problem =>
      rw [reads] at member
      exact ih atom member
    | ok statements =>
      rw [reads] at member
      rcases mem_atoms_runAll statements member with before | ⟨statement, inside, rfl⟩
      · exact ih atom before
      · exact Reader.readable_of_readProgram reads statement inside
  | besides _ nothingNew ih => exact fun atom member => ih atom (nothingNew member)

end Session

/-! ## Judgments of atoms -/

/-- The judgment of an atom. -/
def judgment (atom : Term) : Task := .ofTerm atom .judgment

/-- The judgment of a readable atom is read as the atom. -/
theorem readTerm_judgment {atom : Term} (readable : Reader.Readable atom) :
    (judgment atom).readTerm = .ok atom := readable.readTerm_eq_ok

/-- Judgments of readable atoms are read as the atoms. -/
theorem readAs_judgment {atoms : List Term} (readable : ∀ atom ∈ atoms, Reader.Readable atom) :
    Task.ReadAs (atoms.map judgment) atoms := by
  rw [Task.ReadAs, List.forall₂_map_left_iff, List.forall₂_same]
  exact fun atom member => readTerm_judgment (readable atom member)

namespace Space

/-- **Judgments of readable atoms that are not there** are all added, and all are new. -/
theorem addJudgments_judgment {atoms : List Term} {space : Space} (added : Nat)
    (readable : ∀ atom ∈ atoms, Reader.Readable atom) (distinct : (space.atoms ++ atoms).Nodup) :
    (space.performAll (atoms.map .addAtom)).atoms = space.atoms ++ atoms ∧
    space.addJudgments added (atoms.map judgment) =
      (.ok (added + atoms.length), space.performAll (atoms.map .addAtom)) := by
  have filled := space.atoms_performAll_addAtom atoms
  rw [eraseDups_of_nodup distinct] at filled
  obtain ⟨grown, size, runs⟩ := addJudgments_append (readAs_judgment readable)
    (fun task member => by obtain ⟨atom, -, rfl⟩ := List.mem_map.1 member; rfl) space
  have all := runs added []
  rw [Space.size, filled, List.length_append] at size
  obtain rfl : atoms.length = grown := Nat.add_left_cancel size
  rw [List.append_nil] at all
  exact ⟨filled, all⟩

end Space

/-! ## Out and back -/

namespace Reasoner

variable {σ : Type}

/-- **A reasoner that keeps its tasks:** what it takes in is believed after everything before it. -/
def Keeps (reasoner : Reasoner σ) : Prop :=
  ∀ state task, reasoner.beliefs (reasoner.process state task) = reasoner.beliefs state ++ [task]

/-- A reasoner that keeps its tasks believes the judgments of what is sent to it. -/
theorem Keeps.beliefs_exportAtoms {reasoner : Reasoner σ} (keeps : reasoner.Keeps) (state : σ)
    (space : Space) :
    reasoner.beliefs (reasoner.exportAtoms state space).2 =
      reasoner.beliefs state ++ space.atoms.map judgment := by
  rw [exportAtoms]
  induction space.atoms generalizing state with
  | nil => simp
  | cons atom rest ih =>
    rw [List.foldl_cons, ih, keeps, List.append_assoc]
    rfl

/-- **Out and back nothing is lost.** Let a reasoner that believes nothing yet, and keeps its tasks, take in the
atoms of a space, each of which has been read from some text.  Then adding its beliefs to a space without atoms
succeeds, tells as many new atoms as were sent, and leaves the atoms of the first space in their order.  All
spaces that are filled by loading alone have such atoms. -/
theorem import_export (reasoner : Reasoner σ) (keeps : reasoner.Keeps) {state : σ}
    (blank : reasoner.beliefs state = []) :
    (∀ space target : Space, (∀ atom ∈ space.atoms, ∃ text, Reader.readTerm text = .ok atom) →
      target.atoms = [] →
      (reasoner.exportAtoms state space).1 = space.atoms.length ∧
      ∃ filled : Space, filled.atoms = space.atoms ∧
        reasoner.importBeliefs (reasoner.exportAtoms state space).2 target =
          (.ok (reasoner.exportAtoms state space).1, filled)) ∧
    ∀ session : Session, session.FilledByLoading →
      ∀ atom ∈ session.space.atoms, ∃ text, Reader.readTerm text = .ok atom := by
  refine ⟨fun space target read empty => ⟨rfl, ?_⟩, fun session filled atom member => ?_⟩
  · have readable : ∀ atom ∈ space.atoms, Reader.Readable atom := fun atom member =>
      (read atom member).elim fun _ reads => Reader.readable_of_readTerm reads
    have distinct : (target.atoms ++ space.atoms).Nodup := by simpa [empty] using space.distinct
    obtain ⟨filled, imports⟩ := Space.addJudgments_judgment 0 readable distinct
    rw [empty, List.nil_append] at filled
    refine ⟨_, filled, ?_⟩
    rw [importBeliefs, keeps.beliefs_exportAtoms, blank, List.nil_append, imports, Nat.zero_add]
    rfl
  · have readable := Session.readable_of_filledByLoading filled atom member
    exact ⟨atom.render, readable.readTerm_eq_ok⟩

/-- A program with a literal and a repetition, out to a memory and back. -/
theorem import_export_memory :
    memory.Keeps ∧ memory.beliefs [] = [] ∧
    (Session.brief.load "(f $x) \"a b\" (f $x)").2.FilledByLoading ∧
    ∃ filled : Space, filled.atoms = [.apply (.atom "f") [.atom "$x"], .atom "\"a b\""] ∧
      memory.importBeliefs
        (memory.exportAtoms [] (Session.brief.load "(f $x) \"a b\" (f $x)").2.space).2 ∅ =
          (.ok 2, filled) := by
  have keeps : memory.Keeps := fun _ _ => rfl
  have loaded : (Session.brief.load "(f $x) \"a b\" (f $x)").2.FilledByLoading := .load _ (.start rfl)
  have reads : Reader.readProgram "(f $x) \"a b\" (f $x)" =
      .ok [⟨.apply (.atom "f") [.atom "$x"], false⟩, ⟨.atom "\"a b\"", false⟩,
        ⟨.apply (.atom "f") [.atom "$x"], false⟩] := rfl
  have atoms : (Session.brief.load "(f $x) \"a b\" (f $x)").2.space.atoms =
      [.apply (.atom "f") [.atom "$x"], .atom "\"a b\""] := by
    rw [Session.load, reads]
    rfl
  generalize (Session.brief.load "(f $x) \"a b\" (f $x)").2 = session at loaded atoms ⊢
  obtain ⟨back, read⟩ := import_export memory keeps rfl
  obtain ⟨sent, filled, same, imports⟩ := back session.space ∅ (read session loaded) rfl
  rw [sent, atoms] at imports
  exact ⟨keeps, rfl, loaded, filled, same.trans atoms, imports⟩

end Reasoner

end TermSpace
