import TermSpace.Proofs.Expansion.Run
import TermSpace.Proofs.Term.Occurrences

/-!
# Expansion is counted rewriting

A macro rewrites a term at one of its parts: what the macro replaces is taken out, its replacement is put in,
and everything around it stays.  Expansion with so many replacements is a sequence of just so many of these
rewrites, one after the other, whether or not it is cut off somewhere (`expand_rewrites`).  The components of a
node are rewritten from left to right, each with the others in place, so that no replacement is lost or made
twice when the node is put together again.

Expansion always comes to an end.  It is without an outcome only if one of the matches that it tries is, and
then against a part of a term that rewriting leads to.
-/

namespace TermSpace.MacroTable

set_option autoImplicit false

variable {table : MacroTable}

/-! ## Rewriting -/

/-- **One rewrite:** a part of the term is replaced by a macro of the table. -/
def Rewrites (table : MacroTable) (term next : Term) : Prop :=
  ∃ (context : Term.Context) (part replacement : Term), context.fill part = term ∧
    table.Replaces part replacement ∧ context.fill replacement = next

/-- So many rewrites, one after the other. -/
inductive RewritesIn (table : MacroTable) : Nat → Term → Term → Prop where
  | zero (term : Term) : RewritesIn table 0 term term
  | succ {count : Nat} {term next last : Term} (first : table.Rewrites term next)
      (others : RewritesIn table count next last) : RewritesIn table (count + 1) term last

/-- A term that is replaced as a whole. -/
theorem Replaces.rewrites {term replacement : Term} (replaces : table.Replaces term replacement) :
    table.Rewrites term replacement := ⟨.hole, term, replacement, rfl, replaces, rfl⟩

/-- A rewrite in a component. -/
theorem Rewrites.inside {operator : String} {before after : List Term} {term next : Term}
    (rewrites : table.Rewrites term next) :
    table.Rewrites (.compound operator (before ++ term :: after))
      (.compound operator (before ++ next :: after)) := by
  obtain ⟨context, part, replacement, rfl, replaces, rfl⟩ := rewrites
  exact ⟨.inside operator before context after, part, replacement, rfl, replaces, rfl⟩

namespace RewritesIn

/-- Without a rewrite the term stays what it is. -/
theorem eq_of_zero {term last : Term} (rewrites : table.RewritesIn 0 term last) : last = term := by
  cases rewrites
  rfl

theorem trans {first second : Nat} {term middle last : Term} (start : table.RewritesIn first term middle)
    (rest : table.RewritesIn second middle last) : table.RewritesIn (first + second) term last := by
  induction start with
  | zero => simpa using rest
  | succ rewrites _ ih =>
    rw [Nat.add_right_comm]
    exact .succ rewrites (ih rest)

theorem inside {operator : String} {before after : List Term} {count : Nat} {term last : Term}
    (rewrites : table.RewritesIn count term last) :
    table.RewritesIn count (.compound operator (before ++ term :: after))
      (.compound operator (before ++ last :: after)) := by
  induction rewrites with
  | zero => exact .zero _
  | succ first _ ih => exact .succ first.inside ih

/-- **Components from left to right.** Those before are rewritten already, those after are still as they
were. -/
theorem components {operator : String} : ∀ {pairs : List (Term × Expansion)} (before : List Term),
    (∀ pair ∈ pairs, table.RewritesIn pair.2.replacements pair.1 pair.2.term) →
    table.RewritesIn (Expansion.totalReplacements (pairs.map (·.2)))
      (.compound operator (before ++ pairs.map (·.1)))
      (.compound operator (before ++ pairs.map (·.2.term)))
  | [], before, _ => .zero _
  | pair :: pairs, before, each => by
    obtain ⟨first, others⟩ := List.forall_mem_cons.1 each
    have here : table.RewritesIn pair.2.replacements
        (.compound operator (before ++ pair.1 :: pairs.map (·.1)))
        (.compound operator (before ++ pair.2.term :: pairs.map (·.1))) := first.inside
    have rest : table.RewritesIn (Expansion.totalReplacements (pairs.map (·.2)))
        (.compound operator (before ++ [pair.2.term] ++ pairs.map (·.1)))
        (.compound operator (before ++ [pair.2.term] ++ pairs.map (·.2.term))) := components _ others
    simp only [List.append_assoc, List.singleton_append] at rest
    exact here.trans rest

end RewritesIn

/-! ## Expansion -/

/-- **An expansion is a sequence of as many rewrites as it counts,** within any number of depths. -/
theorem rewritesIn_of_expandWithin {remaining : Nat} {term : Term} {expansion : Expansion}
    (expands : table.expandWithin remaining term = .ok expansion) :
    table.RewritesIn expansion.replacements term expansion.term := by
  refine expandWithin_induction
    (motive := fun _ term expansion => table.RewritesIn expansion.replacements term expansion.term)
    ?cutOff ?atom ?replaced ?rebuilt expands
  case cutOff => exact fun term => .zero term
  case atom => exact fun _ name => .zero (.atom name)
  case replaced =>
    intro remaining term replacement outcome fired goesOn
    have spec := replace?_spec table term
    rw [fired] at spec
    exact .succ spec.rewrites goesOn
  case rebuilt => exact fun pairs _ each => RewritesIn.components [] each

/-- **Where expansion has no outcome,** rewriting leads to a term with a part whose match has none. -/
theorem endless_of_expandWithin {problem : MatchError} : ∀ {remaining : Nat} {term : Term},
    table.expandWithin remaining term = .error problem →
      ∃ count reached part, table.RewritesIn count term reached ∧ part.Part reached ∧
        table.Endless part problem := by
  intro remaining
  induction remaining with
  | zero => exact nofun
  | succ remaining deeper =>
    intro term failed
    induction term with
    | atom name => cases failed
    | compound operator components ih =>
      have spec := replace?_spec table (.compound operator components)
      rw [expandWithin, expandNode] at failed
      cases tried : table.replace? (.compound operator components) with
      | error other =>
        rw [tried] at failed spec
        cases failed
        exact ⟨0, _, _, .zero _, .whole _, spec⟩
      | ok answer =>
        rw [tried] at failed spec
        cases answer with
        | some replacement =>
          cases goesOn : table.expandWithin remaining replacement with
          | ok outcome => simp [goesOn, Except.map] at failed
          | error other =>
            simp only [goesOn, Except.map, Except.error.injEq] at failed
            subst failed
            obtain ⟨count, reached, part, rewrites, inside, endless⟩ := deeper goesOn
            exact ⟨count + 1, reached, part, .succ spec.rewrites rewrites, inside, endless⟩
        | none =>
          cases inside : table.expandAll (table.expandWithin remaining) components with
          | ok outcomes => simp [inside, Except.map] at failed
          | error other =>
            simp only [inside, Except.map, Except.error.injEq] at failed
            subst failed
            -- the components before it need not be rewritten to come to this one
            obtain ⟨before, component, after, rfl, there⟩ := exists_of_expandAll_eq_error inside
            obtain ⟨count, reached, part, rewrites, within, endless⟩ := ih component (by simp) there
            exact ⟨count, _, part, rewrites.inside, .inside (by simp) within, endless⟩

/-- **Expansion is rewriting by macros, exactly counted.** It comes to an end, and with an outcome unless a
match has none, which is then one against a part of a term that rewriting leads to.  The outcome is obtained by
a sequence of as many rewrites as there were replacements, each of one part by a macro that matches it, and is
the term itself if there were none. -/
theorem expand_rewrites (table : MacroTable) (term : Term) :
    match table.expand term with
    | .ok expansion =>
      table.RewritesIn expansion.replacements term expansion.term ∧
        (expansion.replacements = 0 → expansion.term = term)
    | .error problem =>
      ∃ count reached part, table.RewritesIn count term reached ∧ part.Part reached ∧
        table.Endless part problem := by
  cases outcome : table.expand term with
  | error problem => exact endless_of_expandWithin outcome
  | ok expansion =>
    have rewrites := rewritesIn_of_expandWithin outcome
    refine ⟨rewrites, fun idle => ?_⟩
    rw [idle] at rewrites
    exact rewrites.eq_of_zero

/-- The macro `(twice $x) → (pair $x $x)`, with so many depths. -/
def doubling (maxDepth : Nat) : MacroTable :=
  (empty maxDepth).define "twice"
    ⟨.apply (.atom "twice") [.atom "$x"], .apply (.atom "pair") [.atom "$x", .atom "$x"]⟩

/-- One rewrite doubles the component, so that two are left to rewrite.  What they leave is not gone through any more,
and the count is right all the same. -/
theorem expand_rewrites_doubling :
    let nested : Term := .apply (.atom "twice") [.apply (.atom "twice") [.atom "a"]]
    let pair : Term := .apply (.atom "pair") [.atom "a", .atom "a"]
    let doubled : Term := .apply (.atom "pair") [pair, pair]
    (doubling 2).expand nested = .ok ⟨doubled, 3, [⟨2, pair⟩, ⟨2, pair⟩]⟩ ∧
      (doubling 2).RewritesIn 3 nested doubled := by
  intro nested pair doubled
  exact ⟨rfl, (expand_rewrites (doubling 2) nested).1⟩

end TermSpace.MacroTable
