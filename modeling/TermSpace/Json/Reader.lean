import TermSpace.Json.Number

/-!
# Reading JSON

A text is cut into punctuation, quoted texts and bare words first; then a machine with a stack of open
arrays and objects takes the tokens one by one.  There is one way for all of it to fail, so failure is
plain `none`.
-/

namespace TermSpace.Json

set_option autoImplicit false

/-! ## Tokens -/

/-- The least pieces of a JSON text. -/
inductive Token where
  | openArray
  | closeArray
  | openObject
  | closeObject
  | comma
  | colon
  /-- What stands between two quotes, escapes and all. -/
  | quoted (raw : List Char)
  /-- A number, or one of the words for truth values and null. -/
  | bare (word : List Char)

/-- What scanning is in the middle of.  Characters collected so far are kept last first. -/
inductive Mode where
  | between
  | bare (collected : List Char)
  | quoted (collected : List Char) (escaped : Bool)

/-- The four blanks of JSON. -/
def isBlank (character : Char) : Bool := [' ', '\n', '\r', '\t'].contains character

/-- The token of a punctuation mark. -/
def punctuation? (character : Char) : Option Token :=
  if character = '[' then some .openArray
  else if character = ']' then some .closeArray
  else if character = '\x7b' then some .openObject
  else if character = '\x7d' then some .closeObject
  else if character = ',' then some .comma
  else if character = ':' then some .colon
  else none

/-- What a character begins where nothing is under way. -/
def begin (character : Char) : List Token × Mode :=
  if isBlank character then ([], .between)
  else if character = '"' then ([], .quoted [] false)
  else match punctuation? character with
    | some token => ([token], .between)
    | none => ([], .bare [character])

/-- One character of scanning. -/
def step (mode : Mode) (character : Char) : List Token × Mode :=
  match mode with
  | .between => begin character
  | .bare collected =>
    if isBlank character || character == '"' || (punctuation? character).isSome then
      let (tokens, next) := begin character
      (.bare collected.reverse :: tokens, next)
    else ([], .bare (character :: collected))
  | .quoted collected true => ([], .quoted (character :: collected) false)
  | .quoted collected false =>
    if character = '"' then ([.quoted collected.reverse], .between)
    else ([], .quoted (character :: collected) (character == '\\'))

/-- The tokens of a text, from a mode on; `none` inside a quoted text at its end. -/
def scanFrom (mode : Mode) : List Char → Option (List Token)
  | [] =>
    match mode with
    | .between => some []
    | .bare collected => some [.bare collected.reverse]
    | .quoted _ _ => none
  | character :: rest =>
    let (tokens, next) := step mode character
    (scanFrom next rest).map (tokens ++ ·)

/-! ## Texts and words -/

/-- The value of a hexadecimal digit. -/
def hexDigit? (character : Char) : Option Nat :=
  if character.isDigit then some (character.toNat - '0'.toNat)
  else if 'a' ≤ character ∧ character ≤ 'f' then some (character.toNat - 'a'.toNat + 10)
  else if 'A' ≤ character ∧ character ≤ 'F' then some (character.toNat - 'A'.toNat + 10)
  else none

/-- The number that four hexadecimal digits write. -/
def hexUnit? (first second third fourth : Char) : Option Nat := do
  let high ← hexDigit? first
  let upper ← hexDigit? second
  let lower ← hexDigit? third
  let low ← hexDigit? fourth
  return ((high * 16 + upper) * 16 + lower) * 16 + low

/-- Whether a unit is the first half of a pair. -/
def isHighSurrogate (unit : Nat) : Bool := 0xD800 ≤ unit && unit < 0xDC00

/-- Whether a unit is the second half of a pair. -/
def isLowSurrogate (unit : Nat) : Bool := 0xDC00 ≤ unit && unit < 0xE000

/-- The character of an escape with one letter. -/
def shortEscape? (letter : Char) : Option Char :=
  if letter = '"' ∨ letter = '\\' ∨ letter = '/' then some letter
  else if letter = 'b' then some (Char.ofNat 8)
  else if letter = 'f' then some (Char.ofNat 12)
  else if letter = 'n' then some '\n'
  else if letter = 'r' then some '\r'
  else if letter = 't' then some '\t'
  else none

/-- **Quoted texts.** Replace escapes by what they stand for.  Two units that make up a pair are one
character, half a pair is none, and control characters must be escaped. -/
def decodeText? : List Char → Option (List Char)
  | [] => some []
  | '\\' :: 'u' :: first :: second :: third :: fourth :: rest =>
    match hexUnit? first second third fourth with
    | none => none
    | some unit =>
      if isHighSurrogate unit then
        match rest with
        | '\\' :: 'u' :: fifth :: sixth :: seventh :: eighth :: rest =>
          match hexUnit? fifth sixth seventh eighth with
          | none => none
          | some other =>
            if isLowSurrogate other then
              let point := 0x10000 + (unit - 0xD800) * 0x400 + (other - 0xDC00)
              (decodeText? rest).map (Char.ofNat point :: ·)
            else none
        | _ => none
      else if isLowSurrogate unit then none
      else (decodeText? rest).map (Char.ofNat unit :: ·)
  | '\\' :: letter :: rest =>
    match shortEscape? letter with
    | none => none
    | some character => (decodeText? rest).map (character :: ·)
  | character :: rest =>
    if character = '\\' ∨ character.toNat < 32 then none
    else (decodeText? rest).map (character :: ·)

/-- Whether all escapes of a quoted text are complete and no control character stands in it.  Half a pair is
not looked for. -/
def isWellEscaped : List Char → Bool
  | [] => true
  | '\\' :: 'u' :: first :: second :: third :: fourth :: rest =>
    (hexUnit? first second third fourth).isSome && isWellEscaped rest
  | '\\' :: letter :: rest => (shortEscape? letter).isSome && isWellEscaped rest
  | character :: rest => character ≠ '\\' && 32 ≤ character.toNat && isWellEscaped rest

/-- The content of a quoted text: the outer `none` is for what is not well formed, the inner one for half
a pair. -/
def quotedContent? (raw : List Char) : Option (Option String) :=
  if isWellEscaped raw then some ((decodeText? raw).map String.ofList) else none

/-- The value of a bare word. -/
def ofWord? (word : List Char) : Option Json :=
  if word = ['n', 'u', 'l', 'l'] then some .null
  else if word = ['t', 'r', 'u', 'e'] then some (.boolean true)
  else if word = ['f', 'a', 'l', 's', 'e'] then some (.boolean false)
  else (Numeral.read? word).map fun _ => .number (String.ofList word)

/-! ## The machine -/

/-- The members of an object that is open, the last one first.  A name with half a pair in it is `none`. -/
abbrev OpenMembers := List (Option String × Json)

/-- An array or object that is open; what it holds so far stands last first. -/
inductive Frame where
  | array (elements : List Json)
  /-- An object with the name of a member whose value is awaited. -/
  | member (members : OpenMembers) (name : Option String)

/-- The state of the machine. -/
inductive Stage where
  /-- A value must follow; right after the opening of an array its end may follow, too. -/
  | value (frames : List Frame) (mayClose : Bool)
  /-- The name of a member must follow; right after the opening of an object its end may follow, too. -/
  | name (members : OpenMembers) (outer : List Frame) (mayClose : Bool)
  /-- A colon must follow. -/
  | colon (members : OpenMembers) (name : Option String) (outer : List Frame)
  /-- An element is complete. -/
  | element (elements : List Json) (outer : List Frame)
  /-- A member is complete. -/
  | member (members : OpenMembers) (outer : List Frame)
  /-- The whole value is complete, and nothing may follow. -/
  | complete (value : Json)

/-- Put a complete value where it stands. -/
def placeValue (value : Json) : List Frame → Stage
  | [] => .complete value
  | .array elements :: outer => .element (value :: elements) outer
  | .member members name :: outer => .member ((name, value) :: members) outer

/-- The object of all its members. -/
def closeObject (members : OpenMembers) : Json :=
  match members.reverse.mapM fun member => member.1.map fun name => (name, member.2) with
  | some members => .object members
  | none => .unreadable

/-- One token. -/
def advance? (stage : Stage) (token : Token) : Option Stage :=
  match stage, token with
  | .value frames _, .openArray => some (.value (.array [] :: frames) true)
  | .value frames _, .openObject => some (.name [] frames true)
  | .value frames _, .quoted raw =>
    (quotedContent? raw).map fun content => placeValue (content.elim .unreadable .text) frames
  | .value frames _, .bare word => (ofWord? word).map fun value => placeValue value frames
  | .value (.array elements :: outer) true, .closeArray =>
    some (placeValue (.array elements.reverse) outer)
  | .name members outer _, .quoted raw =>
    (quotedContent? raw).map fun name => .colon members name outer
  | .name members outer true, .closeObject => some (placeValue (closeObject members) outer)
  | .colon members name outer, .colon => some (.value (.member members name :: outer) false)
  | .element elements outer, .comma => some (.value (.array elements :: outer) false)
  | .element elements outer, .closeArray => some (placeValue (.array elements.reverse) outer)
  | .member members outer, .comma => some (.name members outer false)
  | .member members outer, .closeObject => some (placeValue (closeObject members) outer)
  | _, _ => none

/-- **Reading JSON.** The text must hold exactly one value. -/
def read? (text : String) : Option Json := do
  let tokens ← scanFrom .between text.toList
  match ← tokens.foldlM advance? (.value [] false) with
  | .complete value => some value
  | _ => none

end TermSpace.Json
