import TermSpace.Text.Invisible

/-!
# Texts quoted for inspection

A text between double quotes, in which quotes, backslashes and everything that cannot be seen are escaped.
-/

namespace TermSpace.Text

set_option autoImplicit false

/-- The code point of a character in lower-case hexadecimal digits between braces. -/
def codePointEscape (character : Char) : String :=
  "\\u\x7b" ++ String.ofList (Nat.toDigits 16 character.toNat) ++ "\x7d"

/-- A character of a quoted text. -/
def quoteCharacter (character : Char) : String :=
  if character.toNat = 0 then "\\0"
  else if character = '\t' then "\\t"
  else if character = '\r' then "\\r"
  else if character = '\n' then "\\n"
  else if character = '"' then "\\\""
  else if character = '\\' then "\\\\"
  else if isInvisible character then codePointEscape character
  else character.toString

/-- A text in quotes. -/
def quote (text : String) : String :=
  "\"" ++ String.join (text.toList.map quoteCharacter) ++ "\""

end TermSpace.Text
