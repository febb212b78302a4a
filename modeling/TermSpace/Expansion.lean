import TermSpace.Matching

/-!
# Expansion of definitions before reduction

A macro is a pattern and an expansion, kept under the name of a head.  A term whose first component is
that name, and that the pattern matches, is replaced by the expansion; the result is expanded in turn.
A node where nothing fires has its components expanded.

The depth counts how often one node has been replaced, one replacement inside the other; components
keep the depth of their node.  At the greatest depth a term is left as it is, and the place is noted.
-/

namespace TermSpace

set_option autoImplicit false

/-- A macro. -/
structure Macro where
  /-- Matched against a term as a whole, its head included. -/
  pattern : Term
  expansion : Term

/-- A place where expansion stopped at the greatest depth. -/
structure CutOff where
  depth : Nat
  term : Term
deriving DecidableEq

/-- The outcome of an expansion. -/
structure Expansion where
  term : Term
  /-- The number of replacements. -/
  replacements : Nat
  cutOffs : List CutOff
deriving DecidableEq

/-- Whether nothing was left unexpanded. -/
def Expansion.isComplete (expansion : Expansion) : Bool := expansion.cutOffs.isEmpty

/-- The number of replacements of some expansions together. -/
def Expansion.totalReplacements (outcomes : List Expansion) : Nat :=
  outcomes.foldr (fun outcome total => outcome.replacements + total) 0

/-- Macros by the names of their heads, and the greatest depth. -/
structure MacroTable where
  macros : Dict String Macro
  maxDepth : Nat

namespace MacroTable

/-- The greatest depth where none is asked for. -/
def defaultMaxDepth : Nat := 100

/-- The table without macros. -/
def empty (maxDepth : Nat) : MacroTable := ⟨∅, maxDepth⟩

/-- Define a macro, in place of any other of the name. -/
def define (table : MacroTable) (name : String) (definition : Macro) : MacroTable :=
  { table with macros := table.macros.insert name definition }

/-- The macro of a name. -/
def get? (table : MacroTable) (name : String) : Option Macro := table.macros.get? name

/-- The replacement of a term by the macro of its head, if there is one and it matches. -/
def replace? (table : MacroTable) (term : Term) : Except MatchError (Option Term) :=
  match term.headName? >>= table.get? with
  | none => .ok none
  | some definition =>
    match Matching.find definition.pattern term with
    | .error problem => .error problem
    | .ok found => .ok (found.map fun bindings => definition.expansion.substitute bindings)

mutual

/-- Expand a term at a depth, with `deeper` for what replaces it. -/
def expandNode (table : MacroTable) (deeper : Term → Except MatchError Expansion) :
    Term → Except MatchError Expansion
  | .atom name => .ok ⟨.atom name, 0, []⟩
  | .compound operator components =>
    match table.replace? (.compound operator components) with
    | .error problem => .error problem
    | .ok (some replacement) =>
      (deeper replacement).map fun outcome => { outcome with replacements := outcome.replacements + 1 }
    | .ok none =>
      (expandAll table deeper components).map fun outcomes =>
        ⟨.compound operator (outcomes.map (·.term)), Expansion.totalReplacements outcomes,
          outcomes.flatMap (·.cutOffs)⟩

/-- Expand components from left to right. -/
def expandAll (table : MacroTable) (deeper : Term → Except MatchError Expansion) :
    List Term → Except MatchError (List Expansion)
  | [] => .ok []
  | component :: rest =>
    match expandNode table deeper component with
    | .error problem => .error problem
    | .ok first => (expandAll table deeper rest).map (first :: ·)

end

/-- Expand a term with a number of depths still below it. -/
def expandWithin (table : MacroTable) : (remaining : Nat) → Term → Except MatchError Expansion
  | 0, term => .ok ⟨term, 0, [⟨table.maxDepth, term⟩]⟩
  | remaining + 1, term => expandNode table (expandWithin table remaining) term

/-- **Expansion.** -/
def expand (table : MacroTable) (term : Term) : Except MatchError Expansion :=
  table.expandWithin table.maxDepth term

end MacroTable

end TermSpace
