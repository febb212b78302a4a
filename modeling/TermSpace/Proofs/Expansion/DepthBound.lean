import TermSpace.Proofs.Expansion.Complete
import TermSpace.Proofs.Expansion.Rewriting

/-!
# The bound on the depth of expansion

The depth of a place is the number of replacements that lead down to it, each made inside of what the one before
has put in; replacements elsewhere do not count (`Nested`).  Expansion stops where this number reaches the bound
and nowhere else, and what it stops at is still there in the result: nothing is rewritten inside of it later on,
and the nodes above it are put together around it.

So a place where expansion stopped tells of at least as many replacements as the bound has depths, and where it
has stopped nowhere the bound has played no part: with any larger one the run is the same (`expand_depthBound`).
-/

namespace TermSpace.MacroTable

set_option autoImplicit false

variable {table : MacroTable}

/-! ## Places where expansion stops -/

/-- So many replacements, one inside the other, lead from a term down to a node.  Going from a node that nothing
replaces to one of its components leaves the number as it is. -/
inductive Nested (table : MacroTable) : Nat → Term → Term → Prop where
  | here (term : Term) : Nested table 0 term term
  | replaced {depth : Nat} {term replacement node : Term}
      (fired : table.replace? term = .ok (some replacement))
      (deeper : Nested table depth replacement node) : Nested table (depth + 1) term node
  | inside {depth : Nat} {operator : String} {components : List Term} {component node : Term}
      (unmatched : table.replace? (.compound operator components) = .ok none)
      (member : component ∈ components) (deeper : Nested table depth component node) :
      Nested table depth (.compound operator components) node

/-- **Expansion stops where as many replacements are nested as there are depths,** and leaves the place as it
is. -/
theorem nested_of_expandWithin {remaining : Nat} {term : Term} {expansion : Expansion}
    (expands : table.expandWithin remaining term = .ok expansion) :
    ∀ cutOff ∈ expansion.cutOffs, cutOff.depth = table.maxDepth ∧
      table.Nested remaining term cutOff.term ∧ cutOff.term.Part expansion.term := by
  refine expandWithin_induction
    (motive := fun remaining term expansion => ∀ cutOff ∈ expansion.cutOffs,
      cutOff.depth = table.maxDepth ∧ table.Nested remaining term cutOff.term ∧
        cutOff.term.Part expansion.term) ?cutOff ?atom ?replaced ?rebuilt expands
  case cutOff => simpa using fun term => ⟨.here term, .whole term⟩
  case atom => exact fun _ _ => nofun
  case replaced =>
    intro remaining term replacement outcome fired goesOn cutOff member
    obtain ⟨depth, nested, inside⟩ := goesOn cutOff member
    exact ⟨depth, .replaced fired nested, inside⟩
  case rebuilt =>
    intro remaining operator pairs unmatched each cutOff member
    obtain ⟨pair, there, within⟩ := List.mem_flatMap.1 member
    obtain ⟨depth, nested, inside⟩ := each pair there cutOff within
    exact ⟨depth, .inside unmatched (List.mem_map_of_mem there) nested,
      .inside (List.mem_map_of_mem there) inside⟩

/-- One expansion has no more replacements than all of them together. -/
theorem replacements_le_total {outcome : Expansion} :
    ∀ {outcomes : List Expansion}, outcome ∈ outcomes →
      outcome.replacements ≤ Expansion.totalReplacements outcomes
  | first :: rest, member => by
    show outcome.replacements ≤ first.replacements + Expansion.totalReplacements rest
    rcases List.mem_cons.1 member with rfl | later
    · exact Nat.le_add_right _ _
    · exact Nat.le_add_left_of_le (replacements_le_total later)

/-- **Where expansion has stopped,** all depths have been used up. -/
theorem le_replacements_of_expandWithin {remaining : Nat} {term : Term} {expansion : Expansion}
    (expands : table.expandWithin remaining term = .ok expansion) (stopped : expansion.cutOffs ≠ []) :
    remaining ≤ expansion.replacements := by
  refine expandWithin_induction
    (motive := fun remaining _ expansion => expansion.cutOffs ≠ [] → remaining ≤ expansion.replacements)
    ?cutOff ?atom ?replaced ?rebuilt expands stopped
  case cutOff => exact fun _ _ => Nat.le_refl 0
  case atom => exact fun _ _ stopped => absurd rfl stopped
  case replaced => exact fun _ goesOn stopped => Nat.succ_le_succ (goesOn stopped)
  case rebuilt =>
    intro remaining operator pairs _ each stopped
    obtain ⟨cutOff, member⟩ := List.exists_mem_of_ne_nil _ stopped
    obtain ⟨pair, there, within⟩ := List.mem_flatMap.1 member
    calc remaining + 1
      _ ≤ pair.2.replacements := each pair there (List.ne_nil_of_mem within)
      _ ≤ Expansion.totalReplacements (pairs.map (·.2)) :=
        replacements_le_total (List.mem_map_of_mem there)

/-! ## Larger bounds -/

/-- The bound of the table plays no part in an expansion that is not cut off. -/
theorem Completes.withBound {remaining : Nat} {term : Term} {expansion : Expansion}
    (completes : table.Completes remaining term expansion) (bound : Nat) :
    { table with maxDepth := bound }.Completes remaining term expansion := by
  induction completes with
  | atom remaining name => exact .atom remaining name
  | replaced fired _ ih => exact .replaced fired ih
  | rebuilt pairs unmatched _ ih => exact .rebuilt pairs unmatched ih

/-- **The bound on the depth is exact, and larger ones change nothing that is complete.** Expansion stops only
where as many replacements as the bound are nested, and the place is a part of the result.  If it has stopped
anywhere there were at least so many replacements.  If it has stopped nowhere, any larger bound leads to the
same term with the same number of replacements, and again stops nowhere. -/
theorem expand_depthBound {term : Term} {expansion : Expansion}
    (expands : table.expand term = .ok expansion) :
    (∀ cutOff ∈ expansion.cutOffs, cutOff.depth = table.maxDepth ∧
      table.Nested cutOff.depth term cutOff.term ∧ cutOff.term.Part expansion.term) ∧
    (expansion.cutOffs ≠ [] → table.maxDepth ≤ expansion.replacements) ∧
    (expansion.cutOffs = [] → ∀ larger, table.maxDepth ≤ larger →
      { table with maxDepth := larger }.expand term = .ok expansion) := by
  refine ⟨fun cutOff member => ?_, le_replacements_of_expandWithin expands, fun complete larger raised => ?_⟩
  · obtain ⟨depth, nested, inside⟩ := nested_of_expandWithin expands cutOff member
    exact ⟨depth, depth ▸ nested, inside⟩
  · have completes := (completes_of_expandWithin expands complete).withBound larger
    exact (completes.expandWithin raised).1

/-- With two depths the expansion of `(twice (twice a))` stops at what the inner replacements have put in.
Three depths are enough, and then seven do the same. -/
theorem expand_depthBound_doubling :
    let term : Term := .apply (.atom "twice") [.apply (.atom "twice") [.atom "a"]]
    let pair : Term := .apply (.atom "pair") [.atom "a", .atom "a"]
    let result : Term := .apply (.atom "pair") [pair, pair]
    (doubling 2).expand term = .ok ⟨result, 3, [⟨2, pair⟩, ⟨2, pair⟩]⟩ ∧
      (doubling 2).Nested 2 term pair ∧ pair.Part result ∧ 2 ≤ 3 ∧
    (doubling 3).expand term = .ok ⟨result, 3, []⟩ ∧ (doubling 7).expand term = .ok ⟨result, 3, []⟩ := by
  intro term pair result
  have stopped : (doubling 2).expand term = .ok ⟨result, 3, [⟨2, pair⟩, ⟨2, pair⟩]⟩ := rfl
  have complete : (doubling 3).expand term = .ok ⟨result, 3, []⟩ := rfl
  obtain ⟨places, counted, -⟩ := expand_depthBound stopped
  obtain ⟨-, nested, inside⟩ := places ⟨2, pair⟩ List.mem_cons_self
  exact ⟨stopped, nested, inside, counted (by simp), complete,
    (expand_depthBound complete).2.2 rfl 7 (by decide)⟩

end TermSpace.MacroTable
