import TermSpace.Branch
import TermSpace.Json.Basic

/-!
# Superpositions as JSON

A single value is `{"Value": v}`, a superposition is `{"Super": {"values": [v, ...]}}`.
-/

namespace TermSpace.Branch

set_option autoImplicit false

variable {α : Type}

/-- The JSON value of a branch, given those of its values. -/
def toJson (encode : α → Json) : Branch α → Json
  | .value held => .object [("Value", encode held)]
  | .super held => .object [("Super", .object [("values", .array (held.map encode))])]

/-- The branch that a JSON value stands for, given what its values stand for. -/
def ofJson? (decode : Json → Option α) : Json → Option (Branch α)
  | .object [("Value", held)] => (decode held).map .value
  | .object [("Super", .object [("values", .array held)])] => (held.mapM decode).map .super
  | _ => none

end TermSpace.Branch
