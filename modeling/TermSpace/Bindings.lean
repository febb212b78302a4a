import TermSpace.Dict
import TermSpace.Term.Render

/-!
# Bindings and substitution

Bindings give terms to names.  Substituting them into a template replaces each variable that has a
term by that term, once: the terms put in are not searched for variables again.
-/

namespace TermSpace

set_option autoImplicit false

/-- Terms under names. -/
abbrev Bindings := Dict String Term

/-- Bindings as text: `name := term` for each, in the order of the names, between braces. -/
def Bindings.render (bindings : Bindings) : String :=
  "\x7b" ++
    ", ".intercalate (bindings.entries.map fun entry => entry.1 ++ " := " ++ entry.2.render) ++
    "\x7d"

namespace Term

mutual

/-- The template with every variable that the bindings know replaced by its term. -/
def substitute (bindings : Bindings) : Term → Term
  | .atom name =>
    if isVariableName name then (bindings.get? name).getD (.atom name) else .atom name
  | .compound operator components => .compound operator (substituteAll bindings components)

/-- Substitution into each component. -/
def substituteAll (bindings : Bindings) : List Term → List Term
  | [] => []
  | component :: rest => substitute bindings component :: substituteAll bindings rest

end

mutual

/-- The variables of a term from left to right, as often as they occur. -/
def variableOccurrences : Term → List String
  | .atom name => if isVariableName name then [name] else []
  | .compound _ components => variableOccurrencesAll components

/-- The variable occurrences of components from left to right. -/
def variableOccurrencesAll : List Term → List String
  | [] => []
  | component :: rest => variableOccurrences component ++ variableOccurrencesAll rest

end

/-- The variables of a term, each at its first occurrence. -/
def variableNames (term : Term) : List String := (variableOccurrences term).eraseDups

end Term

end TermSpace
