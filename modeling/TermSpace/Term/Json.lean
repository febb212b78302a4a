import TermSpace.Json.Number
import TermSpace.Term.Basic

/-!
# Terms as JSON

An atom is `{"Atomic": name}`, a compound is `{"Compound": {"operator": name, "components": [...]}}`.
In what is read, a compound may also list its operator and its components in an array, and an object may
have members that are not asked for; members that are asked for stand there exactly once.
-/

namespace TermSpace.Term

set_option autoImplicit false

mutual

/-- The JSON value of a term. -/
def toJson : Term → Json
  | .atom name => .object [("Atomic", .text name)]
  | .compound operator components =>
    .object [("Compound", .object
      [("operator", .text operator), ("components", .array (toJsonAll components))])]

/-- The JSON values of components. -/
def toJsonAll : List Term → List Json
  | [] => []
  | component :: rest => toJson component :: toJsonAll rest

end

mutual

/-- The term that a JSON value stands for. -/
def ofJson? (limit : Json.DepthLimit) : Json → Option Term
  | .object [("Atomic", .text name)] => limit.enter.map fun _ => .atom name
  | .object [("Compound", .array [.text operator, .array components])] => do
    let afterVariant ← limit.enter
    let afterFields ← afterVariant.enter
    let afterComponents ← afterFields.enter
    return .compound operator (← ofJsonAll? afterComponents components)
  | .object [("Compound", .object members)] => do
    let afterVariant ← limit.enter
    let afterFields ← afterVariant.enter
    match ← ofMembers? afterFields members with
    | ([operator], [components]) => return .compound operator components
    | _ => none
  | _ => none

/-- The terms that JSON values stand for. -/
def ofJsonAll? (limit : Json.DepthLimit) : List Json → Option (List Term)
  | [] => some []
  | element :: rest => do
    let first ← ofJson? limit element
    let others ← ofJsonAll? limit rest
    return first :: others

/-- All operators and all component lists among the members of a compound. -/
def ofMembers? (limit : Json.DepthLimit) :
    List (String × Json) → Option (List String × List (List Term))
  | [] => some ([], [])
  | (name, value) :: rest => do
    let (operators, componentLists) ← ofMembers? limit rest
    if name = "operator" then
      match value with
      | .text operator => return (operator :: operators, componentLists)
      | _ => none
    else if name = "components" then
      match value with
      | .array elements => do
        let afterComponents ← limit.enter
        let components ← ofJsonAll? afterComponents elements
        return (operators, components :: componentLists)
      | _ => none
    else return (operators, componentLists)

end

end TermSpace.Term
