import TermSpace.Expansion
import TermSpace.Proofs.Term.Parts

/-!
# Runs of expansion

Expansion that comes to an end does one of four things at a term, by the number of depths that are left: it
stops where there is none, it leaves an atom alone, it replaces the term and goes on one deeper, or it expands
the components where nothing replaces the term.  What these four keep holds of every expansion
(`expandWithin_induction`), so that no later proof goes through the functions again.

Expansion has no outcome only if the match that it tries at some term has none.
-/

namespace TermSpace.MacroTable

set_option autoImplicit false

variable {table : MacroTable}

/-! ## One attempt -/

/-- A macro of the table replaces a term: it stands under the name of the term's head, its pattern matches the
term, and the bindings of the match are put into its expansion. -/
def Replaces (table : MacroTable) (term replacement : Term) : Prop :=
  ∃ name definition bindings, term.headName? = some name ∧ table.get? name = some definition ∧
    Matching.find definition.pattern term = .ok (some bindings) ∧
    replacement = definition.expansion.substitute bindings

/-- The match of the macro under the name of the term's head has no outcome. -/
def Endless (table : MacroTable) (term : Term) (problem : MatchError) : Prop :=
  ∃ name definition, term.headName? = some name ∧ table.get? name = some definition ∧
    Matching.find definition.pattern term = .error problem

/-- **What trying a term finds.** -/
theorem replace?_spec (table : MacroTable) (term : Term) :
    match table.replace? term with
    | .ok (some replacement) => table.Replaces term replacement
    | .ok none => ∀ replacement, ¬ table.Replaces term replacement
    | .error problem => table.Endless term problem := by
  rw [replace?]
  cases head : term.headName? with
  | none => simp [Replaces, head]
  | some name =>
    cases known : table.get? name with
    | none => simp [Replaces, head, known]
    | some definition =>
      cases found : Matching.find definition.pattern term with
      | error problem => simpa [found, known] using ⟨name, definition, head, known, found⟩
      | ok answer =>
        cases answer with
        | none => simp [Replaces, head, known, found]
        | some bindings =>
          simpa [found, known] using ⟨name, definition, bindings, head, known, found, rfl⟩

/-! ## Components -/

/-- Each component has its outcome. -/
theorem expandAll_eq_ok_iff {deeper : Term → Except MatchError Expansion} :
    ∀ {components : List Term} {outcomes : List Expansion},
      table.expandAll deeper components = .ok outcomes ↔
        ∃ pairs : List (Term × Expansion), components = pairs.map (·.1) ∧ outcomes = pairs.map (·.2) ∧
          ∀ pair ∈ pairs, table.expandNode deeper pair.1 = .ok pair.2
  | [], outcomes => by
    rw [expandAll]
    constructor
    · intro same
      cases same
      exact ⟨[], rfl, rfl, by simp⟩
    · rintro ⟨pairs, none, rfl, -⟩
      rw [List.map_eq_nil_iff.1 none.symm]
      rfl
  | component :: rest, outcomes => by
    rw [expandAll]
    constructor
    · intro expands
      cases first : table.expandNode deeper component with
      | error problem => simp [first] at expands
      | ok outcome =>
        cases later : table.expandAll deeper rest with
        | error problem => simp [first, later, Except.map] at expands
        | ok others =>
          simp only [first, later, Except.map, Except.ok.injEq] at expands
          subst expands
          obtain ⟨pairs, rfl, rfl, each⟩ := expandAll_eq_ok_iff.1 later
          exact ⟨(component, outcome) :: pairs, rfl, rfl, List.forall_mem_cons.2 ⟨first, each⟩⟩
    · rintro ⟨pairs, split, rfl, each⟩
      cases pairs with
      | nil => cases split
      | cons pair pairs =>
        cases split
        obtain ⟨first, others⟩ := List.forall_mem_cons.1 each
        rw [first, expandAll_eq_ok_iff.2 ⟨pairs, rfl, rfl, others⟩]
        rfl

/-- If components have no outcome, the first of them that has none is the reason. -/
theorem exists_of_expandAll_eq_error {deeper : Term → Except MatchError Expansion} {problem : MatchError} :
    ∀ {components : List Term}, table.expandAll deeper components = .error problem →
      ∃ before component after, components = before ++ component :: after ∧
        table.expandNode deeper component = .error problem
  | [], failed => by cases failed
  | component :: rest, failed => by
    rw [expandAll] at failed
    cases first : table.expandNode deeper component with
    | error other =>
      simp only [first, Except.error.injEq] at failed
      exact ⟨[], component, rest, rfl, failed ▸ first⟩
    | ok outcome =>
      cases others : table.expandAll deeper rest with
      | ok outcomes => simp [first, others, Except.map] at failed
      | error other =>
        simp only [first, others, Except.map, Except.error.injEq] at failed
        obtain ⟨before, later, after, rfl, there⟩ := exists_of_expandAll_eq_error others
        exact ⟨component :: before, later, after, rfl, failed ▸ there⟩

/-! ## Whole runs -/

/-- **Induction on a run** that comes to an end.  The components of a node and their outcomes come as one list
of pairs. -/
theorem expandWithin_induction {motive : Nat → Term → Expansion → Prop}
    (cutOff : ∀ term, motive 0 term ⟨term, 0, [⟨table.maxDepth, term⟩]⟩)
    (atom : ∀ remaining name, motive (remaining + 1) (.atom name) ⟨.atom name, 0, []⟩)
    (replaced : ∀ {remaining term replacement outcome},
      table.replace? term = .ok (some replacement) → motive remaining replacement outcome →
        motive (remaining + 1) term { outcome with replacements := outcome.replacements + 1 })
    (rebuilt : ∀ {remaining operator} (pairs : List (Term × Expansion)),
      table.replace? (.compound operator (pairs.map (·.1))) = .ok none →
      (∀ pair ∈ pairs, motive (remaining + 1) pair.1 pair.2) →
        motive (remaining + 1) (.compound operator (pairs.map (·.1)))
          ⟨.compound operator (pairs.map (·.2.term)), Expansion.totalReplacements (pairs.map (·.2)),
            pairs.flatMap (·.2.cutOffs)⟩)
    {remaining : Nat} {term : Term} {expansion : Expansion}
    (expands : table.expandWithin remaining term = .ok expansion) : motive remaining term expansion := by
  induction remaining generalizing term expansion with
  | zero =>
    cases expands
    exact cutOff term
  | succ remaining deeper =>
    induction term generalizing expansion with
    | atom name =>
      cases expands
      exact atom remaining name
    | compound operator components ih =>
      rw [expandWithin, expandNode] at expands
      cases tried : table.replace? (.compound operator components) with
      | error problem => simp [tried] at expands
      | ok answer =>
        rw [tried] at expands
        cases answer with
        | some replacement =>
          cases goesOn : table.expandWithin remaining replacement with
          | error problem => simp [goesOn, Except.map] at expands
          | ok outcome =>
            simp only [goesOn, Except.map, Except.ok.injEq] at expands
            subst expands
            exact replaced tried (deeper goesOn)
        | none =>
          cases inside : table.expandAll (table.expandWithin remaining) components with
          | error problem => simp [inside, Except.map] at expands
          | ok outcomes =>
            simp only [inside, Except.map, Except.ok.injEq] at expands
            subst expands
            obtain ⟨pairs, rfl, rfl, each⟩ := expandAll_eq_ok_iff.1 inside
            rw [List.map_map, List.flatMap_map]
            exact rebuilt pairs tried fun pair member =>
              ih pair.1 (List.mem_map_of_mem member) (each pair member)

end TermSpace.MacroTable
