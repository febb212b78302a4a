import TermSpace.Matching

/-!
# Reduction rules

A rule turns a term that its pattern matches into a result: a template with the bindings put in, or
whatever a native function makes of the bindings.
-/

namespace TermSpace

set_option autoImplicit false

/-- The right-hand side of a rule. -/
inductive RuleBody where
  | template (template : Term)
  | native (compute : Bindings → Term)

/-- The result under the bindings of a match. -/
def RuleBody.instantiate (bindings : Bindings) : RuleBody → Term
  | .template result => result.substitute bindings
  | .native compute => compute bindings

/-- A reduction rule. -/
structure Rule where
  pattern : Term
  body : RuleBody

/-- The first rule of a list that matches a term, with the bindings. -/
def Rule.first? (term : Term) : List Rule → Except MatchError (Option (Rule × Bindings))
  | [] => .ok none
  | rule :: rest =>
    match Matching.find rule.pattern term with
    | .error problem => .error problem
    | .ok (some bindings) => .ok (some (rule, bindings))
    | .ok none => first? term rest

/-- The results of all rules of a list that match a term, in their order. -/
def Rule.results (term : Term) : List Rule → Except MatchError (List Term)
  | [] => .ok []
  | rule :: rest => do
    let found ← Matching.find rule.pattern term
    let others ← results term rest
    match found with
    | some bindings => return rule.body.instantiate bindings :: others
    | none => return others

end TermSpace
