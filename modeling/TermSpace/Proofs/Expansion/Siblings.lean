import Mathlib.Algebra.GroupWithZero.Nat
import TermSpace.Proofs.Expansion.Complete
import TermSpace.Proofs.Expansion.Rewriting

/-!
# Siblings

At a node where no macro matches, the components are expanded from left to right.  This can be done on one
*tally*, which counts the replacements and keeps the places where expansion has stopped, and which every component
takes over from the one before it; the node is put together again only from the first component on that changes,
one component at a time (`expandInPlace`).

Nothing of a component reaches its siblings on this way.  What a run on a tally adds to it does not depend on what
was in it, and is what the expansion of the term by itself gives; a term is given back exactly if there was a
replacement (`expandWithinInPlace_eq`).  So the components come out as if each had been expanded alone: their
replacements add up, and the places come one after the other (`expand_siblings`).
-/

namespace TermSpace

set_option autoImplicit false

/-! ## Expansion on one tally -/

/-- What has been noted in an expansion so far. -/
structure Tally where
  replacements : Nat
  cutOffs : List CutOff

/-- Nothing has been noted. -/
def Tally.empty : Tally := ⟨0, []⟩

/-- What has been noted with an expansion more. -/
def Tally.add (tally : Tally) (outcome : Expansion) : Tally :=
  ⟨tally.replacements + outcome.replacements, tally.cutOffs ++ outcome.cutOffs⟩

/-- What has been noted with the expansions of several components more. -/
def Tally.addAll (tally : Tally) (outcomes : List Expansion) : Tally :=
  ⟨tally.replacements + Expansion.totalReplacements outcomes, tally.cutOffs ++ outcomes.flatMap (·.cutOffs)⟩

theorem Tally.addAll_cons (tally : Tally) (outcome : Expansion) (outcomes : List Expansion) :
    tally.addAll (outcome :: outcomes) = (tally.add outcome).addAll outcomes := by
  simp [addAll, add, Expansion.totalReplacements, Nat.add_assoc]

/-- What an expansion changes a term to, if there was a replacement. -/
def Expansion.changed? (outcome : Expansion) : Option Term :=
  if outcome.replacements = 0 then none else some outcome.term

namespace MacroTable

/-- A run on a tally gives what has changed, if anything has, and the tally that it leaves. -/
abbrev OnTally (α : Type) := Tally → Except MatchError (Option α × Tally)

/-- What a component changes to is put into the copy of all of them, which is made if there is none yet. -/
def putInto (whole : List Term) (position : Nat) (copy? : Option (List Term)) :
    (changed? : Option Term) → Option (List Term)
  | none => copy?
  | some changed => some ((copy?.getD whole).set position changed)

mutual

/-- Expand a node on a tally, with `deeper` for what replaces it. -/
def expandNodeInPlace (table : MacroTable) (deeper : Term → OnTally Term) : Term → OnTally Term
  | .atom _, tally => .ok (none, tally)
  | .compound operator components, tally =>
    match table.replace? (.compound operator components) with
    | .error problem => .error problem
    | .ok (some replacement) =>
      (deeper replacement { tally with replacements := tally.replacements + 1 }).map fun (changed?, after) =>
        (some (changed?.getD replacement), after)
    | .ok none =>
      (expandAllInPlace table deeper components 0 none components tally).map fun (copy?, after) =>
        (copy?.map (.compound operator), after)

/-- Expand the components from a position on. -/
def expandAllInPlace (table : MacroTable) (deeper : Term → OnTally Term) (whole : List Term) (position : Nat)
    (copy? : Option (List Term)) : List Term → OnTally (List Term)
  | [], tally => .ok (copy?, tally)
  | component :: rest, tally =>
    match expandNodeInPlace table deeper component tally with
    | .error problem => .error problem
    | .ok (changed?, after) =>
      expandAllInPlace table deeper whole (position + 1) (putInto whole position copy? changed?) rest after

end

/-- Expand a term on a tally, with a number of depths still below it. -/
def expandWithinInPlace (table : MacroTable) : (remaining : Nat) → Term → OnTally Term
  | 0, term, tally => .ok (none, { tally with cutOffs := tally.cutOffs ++ [⟨table.maxDepth, term⟩] })
  | remaining + 1, term, tally => expandNodeInPlace table (expandWithinInPlace table remaining) term tally

/-- **Expansion in place.** A term in which nothing has changed is given back as it is. -/
def expandInPlace (table : MacroTable) (term : Term) : Except MatchError Expansion :=
  (table.expandWithinInPlace table.maxDepth term .empty).map fun (changed?, tally) =>
    ⟨changed?.getD term, tally.replacements, tally.cutOffs⟩

variable {table : MacroTable}

/-! ## What a run adds to its tally -/

/-- The run adds to any tally what the expansion by itself has noted, and gives the term that it changes to. -/
def RunsAs (run : OnTally Term) (expands : Except MatchError Expansion) : Prop :=
  ∀ tally, run tally = expands.map fun outcome => (outcome.changed?, tally.add outcome)

/-- Without a replacement a term is left as it is. -/
theorem term_of_idle {remaining : Nat} {term : Term} {outcome : Expansion}
    (expands : table.expandWithin remaining term = .ok outcome) (idle : outcome.replacements = 0) :
    outcome.term = term := by
  have rewrites := rewritesIn_of_expandWithin expands
  rw [idle] at rewrites
  exact rewrites.eq_of_zero

/-- A term that is given back only if it changes is known all the same. -/
theorem getD_changed? {remaining : Nat} {term : Term} {outcome : Expansion}
    (expands : table.expandWithin remaining term = .ok outcome) : outcome.changed?.getD term = outcome.term := by
  rw [Expansion.changed?]
  split
  · next idle => exact (term_of_idle expands idle).symm
  · rfl

/-- The copy of the components when some of them are done: there is none until the first one has changed. -/
def copied? (done : List Expansion) (rest : List Term) : Option (List Term) :=
  if Expansion.totalReplacements done = 0 then none else some (done.map (·.term) ++ rest)

theorem totalReplacements_eq_sum (outcomes : List Expansion) :
    Expansion.totalReplacements outcomes = (outcomes.map (·.replacements)).sum := by
  induction outcomes with
  | nil => rfl
  | cons first outcomes ih => exact congrArg (first.replacements + ·) ih

section Components

variable {remaining : Nat} {pairs : List (Term × Expansion)}

/-- Without a copy all components that are done are what they were. -/
theorem getD_copied? (each : ∀ pair ∈ pairs, table.expandWithin remaining pair.1 = .ok pair.2)
    (rest : List Term) :
    (copied? (pairs.map (·.2)) rest).getD (pairs.map (·.1) ++ rest) = pairs.map (·.2.term) ++ rest := by
  rw [copied?]
  split
  · next idle =>
    have same : pairs.map (·.1) = pairs.map (·.2.term) := List.map_congr_left fun pair member =>
      (term_of_idle (each pair member)
        (totalReplacements_eq_zero_iff.1 idle _ (List.mem_map_of_mem member))).symm
    rw [Option.getD_none, same]
  · rw [List.map_map]
    rfl

/-- **One component more:** there is a copy with it if it has changed or there was one before. -/
theorem copied?_concat (each : ∀ pair ∈ pairs, table.expandWithin remaining pair.1 = .ok pair.2)
    {component : Term} {outcome : Expansion} (expands : table.expandWithin remaining component = .ok outcome)
    (rest : List Term) :
    copied? ((pairs ++ [(component, outcome)]).map (·.2)) rest =
      putInto (pairs.map (·.1) ++ component :: rest) pairs.length
        (copied? (pairs.map (·.2)) (component :: rest)) outcome.changed? := by
  rw [Expansion.changed?]
  split
  · next idle =>
    have same := term_of_idle expands idle
    simp [putInto, copied?, totalReplacements_eq_sum, idle, same]
  · next changes =>
    rw [putInto, getD_copied? each]
    simp [copied?, totalReplacements_eq_sum, changes, Function.comp_def]

end Components

/-- **The components that are left** when some are done.  The copy holds the expansions of those that are done and
the others as they are, and the tally that comes in is added to. -/
theorem expandAllInPlace_eq {remaining : Nat} {run : Term → OnTally Term} :
    ∀ {rest : List Term} {pairs : List (Term × Expansion)},
      (∀ component ∈ rest,
        RunsAs (table.expandNodeInPlace run component) (table.expandWithin (remaining + 1) component)) →
      (∀ pair ∈ pairs, table.expandWithin (remaining + 1) pair.1 = .ok pair.2) →
      ∀ tally, table.expandAllInPlace run (pairs.map (·.1) ++ rest) pairs.length
          (copied? (pairs.map (·.2)) rest) rest tally =
        (table.expandAll (table.expandWithin remaining) rest).map fun outcomes =>
          (copied? (pairs.map (·.2) ++ outcomes) [], tally.addAll outcomes)
  | [], pairs, _, _, tally => by
    simp [expandAllInPlace, expandAll, Except.map, Tally.addAll, Expansion.totalReplacements]
  | component :: rest, pairs, eachRuns, each, tally => by
    obtain ⟨here, later⟩ := List.forall_mem_cons.1 eachRuns
    have node : table.expandNode (table.expandWithin remaining) component =
        table.expandWithin (remaining + 1) component := rfl
    rw [expandAllInPlace, expandAll, here tally, node]
    cases expands : table.expandWithin (remaining + 1) component with
    | error problem => rfl
    | ok outcome =>
      have longer : ∀ pair ∈ pairs ++ [(component, outcome)],
          table.expandWithin (remaining + 1) pair.1 = .ok pair.2 := by
        simpa [or_imp, forall_and, expands] using each
      have others := expandAllInPlace_eq later longer (tally.add outcome)
      rw [copied?_concat each expands] at others
      simp only [List.map_append, List.map_cons, List.map_nil, List.append_assoc, List.singleton_append,
        List.length_append, List.length_singleton] at others
      refine others.trans ?_
      cases table.expandAll (table.expandWithin remaining) rest with
      | error problem => rfl
      | ok outcomes => simp only [Except.map, Tally.addAll_cons]

/-- **A run on a tally** adds to it what the expansion by itself gives. -/
theorem expandWithinInPlace_eq (remaining : Nat) (term : Term) :
    RunsAs (table.expandWithinInPlace remaining term) (table.expandWithin remaining term) := by
  induction remaining generalizing term with
  | zero => exact fun tally => rfl
  | succ remaining deeper =>
    induction term with
    | atom name =>
      intro tally
      simp [expandWithinInPlace, expandNodeInPlace, expandWithin, expandNode, Except.map, Expansion.changed?,
        Tally.add]
    | compound operator components ih =>
      intro tally
      rw [expandWithinInPlace, expandNodeInPlace, expandWithin, expandNode]
      cases table.replace? (.compound operator components) with
      | error problem => rfl
      | ok answer =>
        cases answer with
        | some replacement =>
          dsimp only
          rw [deeper replacement]
          cases goesOn : table.expandWithin remaining replacement with
          | error problem => rfl
          | ok outcome =>
            have counted : Tally.add { tally with replacements := tally.replacements + 1 } outcome =
                tally.add { outcome with replacements := outcome.replacements + 1 } := by
              rw [Tally.add, Tally.add, Nat.add_right_comm, Nat.add_assoc]
            have changes : Expansion.changed? { outcome with replacements := outcome.replacements + 1 } =
                some outcome.term := rfl
            simp only [Except.map, getD_changed? goesOn, counted, changes]
        | none =>
          dsimp only
          have nothing : ∀ pair ∈ ([] : List (Term × Expansion)),
              table.expandWithin (remaining + 1) pair.1 = .ok pair.2 := by simp
          have inside := expandAllInPlace_eq ih nothing tally
          have noCopy : copied? [] components = none := rfl
          simp only [List.map_nil, List.nil_append, List.length_nil, noCopy] at inside
          rw [inside]
          cases table.expandAll (table.expandWithin remaining) components with
          | error problem => rfl
          | ok outcomes =>
            simp only [Except.map, copied?, Expansion.changed?, List.append_nil]
            split <;> rfl

/-- **Expansion in place is expansion.** -/
theorem expandInPlace_eq (table : MacroTable) (term : Term) : table.expandInPlace term = table.expand term := by
  rw [expandInPlace, expand, expandWithinInPlace_eq]
  cases expands : table.expandWithin table.maxDepth term with
  | error problem => rfl
  | ok outcome => simp [Except.map, getD_changed? expands, Tally.add, Tally.empty]

/-! ## Components by themselves -/

theorem expandAll_eq_mapM (deeper : Term → Except MatchError Expansion) : ∀ components : List Term,
    table.expandAll deeper components = components.mapM (table.expandNode deeper)
  | [] => rfl
  | component :: rest => by
    rw [expandAll, List.mapM_cons, expandAll_eq_mapM deeper rest]
    cases table.expandNode deeper component with
    | error problem => rfl
    | ok first => cases rest.mapM (table.expandNode deeper) <;> rfl

/-- **Siblings do not share anything.** Where no macro matches, the components are expanded as each of them would
be by itself, from left to right up to the first that has no outcome.  The operator stays, the replacements are
those of all components together, and the places where expansion stopped come in their order.  This is also what
one tally for all of them has noted in the end. -/
theorem expand_siblings {operator : String} {components : List Term} (bound : 1 ≤ table.maxDepth)
    (unmatched : table.replace? (.compound operator components) = .ok none) :
    table.expandInPlace (.compound operator components) = table.expand (.compound operator components) ∧
    table.expand (.compound operator components) =
      (components.mapM table.expand).map fun outcomes =>
        ⟨.compound operator (outcomes.map (·.term)), (outcomes.map (·.replacements)).sum,
          outcomes.flatMap (·.cutOffs)⟩ := by
  refine ⟨expandInPlace_eq table _, ?_⟩
  obtain ⟨remaining, deep⟩ := Nat.exists_eq_add_one.2 bound
  have alone : table.expand = table.expandNode (table.expandWithin remaining) := by
    funext term
    rw [expand, deep, expandWithin]
  rw [alone, expandNode, unmatched, expandAll_eq_mapM]
  simp only [totalReplacements_eq_sum]

/-- Three components with one depth: one is replaced and cut off, one stays, and one is cut off with macros in it
that would match further down. -/
theorem expand_siblings_doubling :
    let twice := fun term => Term.apply (.atom "twice") [term]
    let pair := fun term => Term.apply (.atom "pair") [term, term]
    let row := Term.compound "row" [twice (.atom "a"), .atom "b", twice (twice (.atom "c"))]
    (doubling 1).replace? row = .ok none ∧
    (doubling 1).expandInPlace row = (doubling 1).expand row ∧
    (doubling 1).expand row =
      .ok ⟨.compound "row" [pair (.atom "a"), .atom "b", pair (twice (.atom "c"))], 2,
        [⟨1, pair (.atom "a")⟩, ⟨1, pair (twice (.atom "c"))⟩]⟩ := by
  intro twice pair row
  have bound : 1 ≤ (doubling 1).maxDepth := Nat.le_refl 1
  have unmatched : (doubling 1).replace? row = .ok none := rfl
  obtain ⟨inPlace, alone⟩ := expand_siblings bound unmatched
  exact ⟨unmatched, inPlace, alone.trans rfl⟩

end MacroTable

end TermSpace
