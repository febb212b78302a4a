import TermSpace.Json.Basic

/-!
# JSON as text

The compact form: no blanks, members in their order, and in texts an escape for quotes, backslashes and
control characters only.  A value without content is written as null.
-/

namespace TermSpace.Json

set_option autoImplicit false

/-- A character of a text. -/
def escape (character : Char) : List Char :=
  if character = '"' then ['\\', '"']
  else if character = '\\' then ['\\', '\\']
  else if character = '\n' then ['\\', 'n']
  else if character = '\r' then ['\\', 'r']
  else if character = '\t' then ['\\', 't']
  else if character.toNat = 8 then ['\\', 'b']
  else if character.toNat = 12 then ['\\', 'f']
  else if character.toNat < 32 then
    ['\\', 'u', '0', '0', Nat.digitChar (character.toNat / 16), Nat.digitChar (character.toNat % 16)]
  else [character]

/-- A text in quotes. -/
def writeText (content : String) : String :=
  "\"" ++ String.ofList (content.toList.flatMap escape) ++ "\""

mutual

/-- The compact text of a value. -/
def write : Json → String
  | .null => "null"
  | .boolean value => if value then "true" else "false"
  | .number written => written
  | .text content => writeText content
  | .array elements => "[" ++ ",".intercalate (writeElements elements) ++ "]"
  | .object members => "\x7b" ++ ",".intercalate (writeMembers members) ++ "\x7d"
  | .unreadable => "null"

/-- The texts of the elements of an array. -/
def writeElements : List Json → List String
  | [] => []
  | element :: rest => write element :: writeElements rest

/-- The texts of the members of an object. -/
def writeMembers : List (String × Json) → List String
  | [] => []
  | member :: rest => writeMember member :: writeMembers rest

/-- The text of a member of an object. -/
def writeMember : String × Json → String
  | (name, value) => writeText name ++ ":" ++ write value

end

end TermSpace.Json
