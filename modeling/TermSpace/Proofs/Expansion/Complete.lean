import Mathlib.Data.List.Forall2
import TermSpace.Proofs.Expansion.Run

/-!
# What a complete expansion leaves

Expansion goes through a term once and from the top: it tries a node, goes on with what replaces it, and where
nothing does it expands the components and puts the node together again.  A node that is put together again is
not tried again.  In the result of an expansion that was not cut off, macros match at such nodes only, and only
where a component has changed (`expand_complete`).

This is less than that nothing is left to expand.  A component may turn into just what a macro of the node above
it asks for (`expand_leaves_match`), and expanding again then goes on.  It changes nothing if and only if no
macro matches anywhere.
-/

namespace TermSpace.MacroTable

set_option autoImplicit false

variable {table : MacroTable}

/-! ## Expansions that are not cut off -/

/-- **Complete expansion by its rules,** within a number of depths: an atom is left alone, a node is replaced
and its replacement is expanded one deeper, or a node at which no macro matches is put together again from its
expanded components. -/
inductive Completes (table : MacroTable) : Nat → Term → Expansion → Prop where
  | atom (remaining : Nat) (name : String) :
      Completes table (remaining + 1) (.atom name) ⟨.atom name, 0, []⟩
  | replaced {remaining : Nat} {term replacement : Term} {outcome : Expansion}
      (fired : table.replace? term = .ok (some replacement))
      (goesOn : Completes table remaining replacement outcome) :
      Completes table (remaining + 1) term { outcome with replacements := outcome.replacements + 1 }
  | rebuilt {remaining : Nat} {operator : String} (pairs : List (Term × Expansion))
      (unmatched : table.replace? (.compound operator (pairs.map (·.1))) = .ok none)
      (each : ∀ pair ∈ pairs, Completes table (remaining + 1) pair.1 pair.2) :
      Completes table (remaining + 1) (.compound operator (pairs.map (·.1)))
        ⟨.compound operator (pairs.map (·.2.term)), Expansion.totalReplacements (pairs.map (·.2)), []⟩

/-- An expansion that is not cut off follows the rules. -/
theorem completes_of_expandWithin {remaining : Nat} {term : Term} {expansion : Expansion}
    (expands : table.expandWithin remaining term = .ok expansion) (complete : expansion.cutOffs = []) :
    table.Completes remaining term expansion := by
  refine expandWithin_induction
    (motive := fun remaining term expansion => expansion.cutOffs = [] →
      table.Completes remaining term expansion) ?cutOff ?atom ?replaced ?rebuilt expands complete
  case cutOff => exact fun _ => nofun
  case atom => exact fun remaining name _ => .atom remaining name
  case replaced => exact fun fired goesOn complete => .replaced fired (goesOn complete)
  case rebuilt =>
    intro remaining operator pairs unmatched each complete
    have uncut : pairs.flatMap (·.2.cutOffs) = [] := complete
    rw [uncut]
    exact .rebuilt pairs unmatched fun pair member =>
      each pair member (List.flatMap_eq_nil_iff.1 uncut pair member)

/-- The rules say what expansion does, and with more depth it does the same. -/
theorem Completes.expandWithin {remaining : Nat} {term : Term} {expansion : Expansion}
    (completes : table.Completes remaining term expansion) {larger : Nat} (deeper : remaining ≤ larger) :
    table.expandWithin larger term = .ok expansion ∧ expansion.cutOffs = [] := by
  induction completes generalizing larger with
  | atom remaining name =>
    cases larger with
    | zero => omega
    | succ larger => exact ⟨rfl, rfl⟩
  | @replaced remaining term replacement outcome fired _ ih =>
    cases larger with
    | zero => omega
    | succ larger =>
      obtain ⟨goesOn, complete⟩ := ih (Nat.le_of_succ_le_succ deeper)
      cases term with
      | atom name => cases fired
      | compound operator components =>
        rw [MacroTable.expandWithin, expandNode, fired]
        simp only [goesOn]
        exact ⟨rfl, complete⟩
  | @rebuilt remaining operator pairs unmatched _ ih =>
    cases larger with
    | zero => omega
    | succ larger =>
      have inside : table.expandAll (table.expandWithin larger) (pairs.map (·.1)) =
          .ok (pairs.map (·.2)) :=
        expandAll_eq_ok_iff.2 ⟨pairs, rfl, rfl, fun pair member => (ih pair member deeper).1⟩
      have uncut : (pairs.map (·.2)).flatMap (·.cutOffs) = [] := by
        simp only [List.flatMap_eq_nil_iff, List.mem_map, forall_exists_index, and_imp]
        rintro _ pair member rfl
        exact (ih pair member deeper).2
      refine ⟨?_, rfl⟩
      rw [MacroTable.expandWithin, expandNode, unmatched]
      simp only [inside, Except.map, uncut, List.map_map]
      rfl

/-! ## Nodes that are put together again -/

/-- The nodes that expansion comes to: the term as a whole, what replaces a node, and the components of a node
at which no macro matches. -/
inductive Tried (table : MacroTable) (term : Term) : Term → Prop where
  | here : Tried table term term
  | replaced {node replacement : Term} (earlier : Tried table term node)
      (fired : table.replace? node = .ok (some replacement)) : Tried table term replacement
  | inside {operator : String} {components : List Term} {component : Term}
      (earlier : Tried table term (.compound operator components))
      (unmatched : table.replace? (.compound operator components) = .ok none)
      (member : component ∈ components) : Tried table term component

theorem Tried.trans {term node last : Term} (first : table.Tried term node)
    (second : table.Tried node last) : table.Tried term last := by
  induction second with
  | here => exact first
  | replaced _ fired ih => exact .replaced ih fired
  | inside _ unmatched member ih => exact .inside ih unmatched member

/-- A node that was put together again with a component changed: expansion came to the node with the components
before, no macro matched there, and the components after are their complete expansions. -/
def Rebuilt (table : MacroTable) (term node : Term) : Prop :=
  ∃ operator before after, node = .compound operator after ∧
    table.Tried term (.compound operator before) ∧
    table.replace? (.compound operator before) = .ok none ∧ before ≠ after ∧
    List.Forall₂ (fun component expanded =>
      ∃ replacements, table.expand component = .ok ⟨expanded, replacements, []⟩) before after

theorem Tried.rebuilt {term node part : Term} (tried : table.Tried term node)
    (rebuilt : table.Rebuilt node part) : table.Rebuilt term part := by
  obtain ⟨operator, before, after, same, inside, rest⟩ := rebuilt
  exact ⟨operator, before, after, same, tried.trans inside, rest⟩

/-- **Macros match at nothing but nodes that were put together again.** -/
theorem Completes.matches_only_rebuilt {remaining : Nat} {term : Term} {expansion : Expansion}
    (completes : table.Completes remaining term expansion) (within : remaining ≤ table.maxDepth)
    {part : Term} (inside : part.Part expansion.term) :
    table.replace? part = .ok none ∨ table.Rebuilt term part := by
  induction completes with
  | atom remaining name =>
    rw [Term.Part.atom_iff.1 inside]
    exact .inl rfl
  | replaced fired _ ih =>
    exact (ih (Nat.le_of_succ_le within) inside).imp_right (Tried.replaced .here fired).rebuilt
  | @rebuilt remaining operator pairs unmatched each ih =>
    rcases Term.Part.compound_iff.1 inside with rfl | ⟨component, member, deeper⟩
    · by_cases same : pairs.map (·.1) = pairs.map (·.2.term)
      · exact .inl (same ▸ unmatched)
      · refine .inr ⟨operator, _, _, rfl, .here, unmatched, same, ?_⟩
        rw [List.forall₂_map_left_iff, List.forall₂_map_right_iff, List.forall₂_same]
        intro pair member
        obtain ⟨expands, complete⟩ := (each pair member).expandWithin within
        refine ⟨pair.2.replacements, ?_⟩
        rw [expand, expands, ← complete]
    · obtain ⟨pair, there, rfl⟩ := List.mem_map.1 member
      exact (ih pair there within deeper).imp_right
        (Tried.inside .here unmatched (List.mem_map_of_mem there)).rebuilt

/-! ## Expanding again -/

/-- There is no replacement in all expansions together if there is none in any. -/
theorem totalReplacements_eq_zero_iff {outcomes : List Expansion} :
    Expansion.totalReplacements outcomes = 0 ↔ ∀ outcome ∈ outcomes, outcome.replacements = 0 := by
  induction outcomes with
  | nil => simp [Expansion.totalReplacements]
  | cons outcome rest ih =>
    rw [List.forall_mem_cons, ← ih]
    exact Nat.add_eq_zero_iff

/-- A component next to the outcome of leaving it as it is. -/
def untouched (component : Term) : Term × Expansion := (component, ⟨component, 0, []⟩)

/-- Expansion leaves a term alone if no macro matches anywhere in it. -/
theorem completes_untouched (remaining : Nat) {term : Term}
    (unmatched : ∀ part, part.Part term → table.replace? part = .ok none) :
    table.Completes (remaining + 1) term ⟨term, 0, []⟩ := by
  induction term with
  | atom name => exact .atom remaining name
  | compound operator components ih =>
    have before : (components.map untouched).map (·.1) = components := by
      rw [List.map_map]
      exact List.map_id components
    have after : (components.map untouched).map (·.2.term) = components := by
      rw [List.map_map]
      exact List.map_id components
    have idle : Expansion.totalReplacements ((components.map untouched).map (·.2)) = 0 := by
      simp [totalReplacements_eq_zero_iff, untouched]
    have here : table.replace? (.compound operator ((components.map untouched).map (·.1))) = .ok none := by
      rw [before]
      exact unmatched _ (.whole _)
    have each : ∀ pair ∈ components.map untouched, table.Completes (remaining + 1) pair.1 pair.2 := by
      simp only [List.forall_mem_map]
      exact fun component member => ih component member fun part inside =>
        unmatched part (.inside member inside)
    have rebuilt := Completes.rebuilt (components.map untouched) here each
    rwa [before, after, idle] at rebuilt

/-- An expansion without a replacement has found nothing that matches. -/
theorem Completes.unmatched {remaining : Nat} {term : Term} {expansion : Expansion}
    (completes : table.Completes remaining term expansion) (idle : expansion.replacements = 0) {part : Term}
    (inside : part.Part term) : table.replace? part = .ok none := by
  induction completes with
  | atom remaining name =>
    rw [Term.Part.atom_iff.1 inside]
    rfl
  | replaced => cases idle
  | @rebuilt remaining operator pairs here _ ih =>
    rcases Term.Part.compound_iff.1 inside with rfl | ⟨component, member, deeper⟩
    · exact here
    · obtain ⟨pair, there, rfl⟩ := List.mem_map.1 member
      refine ih pair there ?_ deeper
      exact totalReplacements_eq_zero_iff.1 idle _ (List.mem_map_of_mem there)

/-- **What a complete expansion leaves.** A macro may match a part of the result only if the part was put
together again with a component changed, from a node at which no macro matched.  Expanding the result makes no
replacement and gives it back unchanged if and only if no macro matches any part of it. -/
theorem expand_complete {term : Term} {expansion : Expansion} (expands : table.expand term = .ok expansion)
    (complete : expansion.isComplete) :
    (∀ part, part.Part expansion.term →
      table.replace? part = .ok none ∨ table.Rebuilt term part) ∧
    (table.expand expansion.term = .ok ⟨expansion.term, 0, []⟩ ↔
      ∀ part, part.Part expansion.term → table.replace? part = .ok none) := by
  have uncut : expansion.cutOffs = [] := List.isEmpty_iff.1 complete
  have completes := completes_of_expandWithin expands uncut
  refine ⟨fun part inside => completes.matches_only_rebuilt (Nat.le_refl _) inside, ?_, ?_⟩
  · intro again part inside
    exact (completes_of_expandWithin again rfl).unmatched rfl inside
  · intro unmatched
    obtain ⟨depth, deep⟩ : ∃ depth, table.maxDepth = depth + 1 := by
      cases deep : table.maxDepth with
      | zero =>
        rw [deep] at completes
        cases completes
      | succ depth => exact ⟨depth, rfl⟩
    have again := completes_untouched depth unmatched
    rw [← deep] at again
    exact (again.expandWithin (Nat.le_refl _)).1

/-- The macros `(f b) → c` and `(g) → b`. -/
def nested : MacroTable :=
  ((empty 100).define "f" ⟨.apply (.atom "f") [.atom "b"], .atom "c"⟩).define "g"
    ⟨.apply (.atom "g") [], .atom "b"⟩

/-- In `(f (g))` only the component has been replaced, which makes `(f b)` of the whole. -/
theorem expand_complete_nested :
    nested.expand (.apply (.atom "f") [.apply (.atom "g") []]) =
      .ok ⟨.apply (.atom "f") [.atom "b"], 1, []⟩ ∧
    nested.Rebuilt (.apply (.atom "f") [.apply (.atom "g") []]) (.apply (.atom "f") [.atom "b"]) := by
  have expands : nested.expand (.apply (.atom "f") [.apply (.atom "g") []]) =
      .ok ⟨.apply (.atom "f") [.atom "b"], 1, []⟩ := rfl
  refine ⟨expands, ((expand_complete expands rfl).1 _ (.whole _)).resolve_left ?_⟩
  exact nofun

/-- **A complete expansion may leave a macro that matches:** `(f (g))` expands to `(f b)`, and `(f b)` to
`c`. -/
theorem expand_leaves_match :
    ¬ ∀ (table : MacroTable) (term : Term) (expansion : Expansion), table.expand term = .ok expansion →
      expansion.isComplete →
      (∀ part, part.Part expansion.term → table.replace? part = .ok none) ∧
        table.expand expansion.term = .ok ⟨expansion.term, 0, []⟩ := by
  intro claimed
  have expands : nested.expand (.apply (.atom "f") [.apply (.atom "g") []]) =
      .ok ⟨.apply (.atom "f") [.atom "b"], 1, []⟩ := rfl
  have again : nested.expand (.apply (.atom "f") [.atom "b"]) = .ok ⟨.atom "c", 1, []⟩ := rfl
  have unchanged := (claimed nested _ _ expands rfl).2
  rw [again] at unchanged
  cases unchanged

end TermSpace.MacroTable
