import TermSpace.Bindings

/-!
# Matching a pattern against a term

Matching goes one way.  It looks for bindings under which the pattern becomes the term, and the
variables that stand in the term are plain atoms to it.

A variable of the pattern that is bound already stands for its term, and if that term is a variable it
is looked up in turn.  Bindings can lead round in a circle: matching `(f $x $x)` against itself binds
`$x` to `$x`, and the second occurrence of `$x` then leads to `$x` for ever.  Following the circle is no
way to an answer, neither to a match nor to a failure, and is reported as an error of its own.
-/

namespace TermSpace

set_option autoImplicit false

/-- Why a matching attempt has no outcome. -/
inductive MatchError where
  /-- The bindings lead from a variable back to itself. -/
  | circular (name : String)

/-- What matching is told of an error. -/
def MatchError.message : MatchError → String
  | .circular name => "the binding of " ++ name ++ " leads back to itself"

namespace Matching

/-- What a pattern stands for under bindings: a variable without a term, or a term that is none. -/
inductive Exposed where
  | unbound (name : String)
  | shape (pattern : Term)

/-- Follow the bindings of a variable as long as they lead to another variable.

A chain that goes on after as many steps as there are bindings has met a name twice. -/
def follow (bindings : Bindings) (start : String) :
    (steps : Nat) → (name : String) → Except MatchError Exposed
  | steps, name =>
    match bindings.get? name with
    | none => .ok (.unbound name)
    | some (.compound operator components) => .ok (.shape (.compound operator components))
    | some (.atom next) =>
      if Term.isVariableName next then
        match steps with
        | 0 => .error (.circular start)
        | steps + 1 => follow bindings start steps next
      else .ok (.shape (.atom next))

/-- What a pattern stands for. -/
def expose (bindings : Bindings) : Term → Except MatchError Exposed
  | .atom name =>
    if Term.isVariableName name then follow bindings name bindings.size name
    else .ok (.shape (.atom name))
  | .compound operator components => .ok (.shape (.compound operator components))

mutual

/-- **Matching.** Extend the bindings so that the pattern becomes the term; `none` if that cannot be done.

The recursion is on the term: every term that a bound variable brings into the pattern is compared with a
part of the term that is smaller than the one compared before. -/
def extend (pattern : Term) : (term : Term) → (bindings : Bindings) →
    Except MatchError (Option Bindings)
  | .atom name, bindings =>
    match expose bindings pattern with
    | .error problem => .error problem
    | .ok (.unbound free) => .ok (some (bindings.insert free (.atom name)))
    | .ok (.shape (.atom other)) => .ok (if other = name then some bindings else none)
    | .ok (.shape (.compound _ _)) => .ok none
  | .compound operator components, bindings =>
    match expose bindings pattern with
    | .error problem => .error problem
    | .ok (.unbound free) =>
      .ok (some (bindings.insert free (.compound operator components)))
    | .ok (.shape (.atom _)) => .ok none
    | .ok (.shape (.compound other patterns)) =>
      if other = operator ∧ patterns.length = components.length then
        extendAll patterns components bindings
      else .ok none

/-- Match components one after the other, each under the bindings that the earlier ones led to. -/
def extendAll : (patterns components : List Term) → (bindings : Bindings) →
    Except MatchError (Option Bindings)
  | pattern :: patterns, component :: components, bindings =>
    match extend pattern component bindings with
    | .ok (some extended) => extendAll patterns components extended
    | .ok none => .ok none
    | .error problem => .error problem
  | _, _, bindings => .ok (some bindings)

end

/-- Match a pattern against a term with nothing bound yet. -/
def find (pattern term : Term) : Except MatchError (Option Bindings) := extend pattern term ∅

/-- Match a pattern against each of several terms and keep the bindings of those that it fits. -/
def findAll (pattern : Term) : List Term → Except MatchError (List Bindings)
  | [] => .ok []
  | term :: rest => do
    let found ← find pattern term
    let others ← findAll pattern rest
    return found.toList ++ others

end Matching

end TermSpace
