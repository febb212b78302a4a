import TermSpace.Grounded.Registry
import TermSpace.Text.Quoted

/-!
# Descriptions for inspection

How terms, rules, spaces and registries are shown to someone who looks into them: by constructor and
field, with texts in quotes.
-/

namespace TermSpace

set_option autoImplicit false

/-- Descriptions in brackets. -/
def describeList (descriptions : List String) : String :=
  "[" ++ ", ".intercalate descriptions ++ "]"

/-- The description of something with named fields. -/
def describeFields (name : String) (fields : List (String × String)) : String :=
  name ++ " \x7b " ++ ", ".intercalate (fields.map fun field => field.1 ++ ": " ++ field.2) ++ " \x7d"

mutual

/-- The description of a term. -/
def Term.describe : Term → String
  | .atom name => "Atomic(" ++ Text.quote name ++ ")"
  | .compound operator components =>
    describeFields "Compound"
      [("operator", Text.quote operator), ("components", describeList (describeAll components))]

/-- The descriptions of components. -/
def Term.describeAll : List Term → List String
  | [] => []
  | component :: rest => component.describe :: describeAll rest

end

/-- The description of the right-hand side of a rule. -/
def RuleBody.describe : RuleBody → String
  | .template result => "Template(" ++ result.describe ++ ")"
  | .native _ => "Native(<fn>)"

/-- The description of a space: how much there is in it, and whether anyone listens. -/
def Space.describe (space : Space) : String :=
  describeFields "Space"
    [("atoms", toString space.size), ("rules", toString space.rules.length),
      ("sink", if space.told?.isSome then "true" else "false")]

/-- The description of a registry: the names in it. -/
def Registry.describe (registry : Registry) : String :=
  describeFields "GroundedRegistry"
    [("names", describeList (registry.names.map Text.quote))]

end TermSpace
