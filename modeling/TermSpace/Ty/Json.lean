import TermSpace.Json.Number
import TermSpace.Ty.Basic

/-!
# Types as JSON

A type is an object with one member, which is named for the kind of the type: `{"Base": name}`,
`{"Arrow": [A, B]}`, `{"List": A}`, `{"Maybe": A}`, `{"Either": [A, B]}`, `{"Vector": n}`, `{"Var": n}` or
`{"Forall": [n, A]}`.  The numbers of variables mean something only where the value comes from, so that
they have to be exchanged for variables of one's own.
-/

namespace TermSpace.Ty

set_option autoImplicit false

/-- The type that a JSON value stands for. -/
def ofJson? : Json → Option Ty
  | .object [("Base", .text name)] => some (.base name)
  | .object [("Arrow", .array [source, target])] => do
    return .arrow (← ofJson? source) (← ofJson? target)
  | .object [("List", element)] => (ofJson? element).map .list
  | .object [("Maybe", element)] => (ofJson? element).map .maybe
  | .object [("Either", .array [left, right])] => do
    return .either (← ofJson? left) (← ofJson? right)
  | .object [("Vector", length)] => length.toNat?.map .vector
  | .object [("Var", id)] => id.toNat?.map .var
  | .object [("Forall", .array [id, body])] => do
    return .quantified (← id.toNat?) (← ofJson? body)
  | _ => none

/-- All numbers of variables from left to right, free or bound, as often as they occur. -/
def ids : Ty → List Nat
  | .base _ => []
  | .vector _ => []
  | .var id => [id]
  | .arrow source target => source.ids ++ target.ids
  | .either left right => left.ids ++ right.ids
  | .list element => element.ids
  | .maybe element => element.ids
  | .quantified id body => id :: body.ids

/-- Exchange the numbers of all variables, free or bound. -/
def mapIds (change : Nat → Nat) : Ty → Ty
  | .base name => .base name
  | .vector length => .vector length
  | .var id => .var (change id)
  | .arrow source target => .arrow (source.mapIds change) (target.mapIds change)
  | .either left right => .either (left.mapIds change) (right.mapIds change)
  | .list element => .list (element.mapIds change)
  | .maybe element => .maybe (element.mapIds change)
  | .quantified id body => .quantified (change id) (body.mapIds change)

end TermSpace.Ty
