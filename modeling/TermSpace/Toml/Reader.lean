import TermSpace.Json.Reader
import TermSpace.Toml.Scalar

/-!
# Reading TOML

Every function takes something off the front of a text and gives the rest with it.  There is one way for
all of them to fail, so failure is plain `none`.
-/

namespace TermSpace.Toml

set_option autoImplicit false

/-! ## Blanks, comments and lines -/

/-- The two blanks of a line. -/
def isBlank (character : Char) : Bool := character = ' ' || character = '\t'

/-- Control characters other than the tabulator stand nowhere. -/
def isControl (character : Char) : Bool :=
  (character.toNat < 32 && character ≠ '\t') || character.toNat = 127

/-- Drop blanks. -/
def skipBlanks (text : List Char) : List Char := text.dropWhile isBlank

/-- Drop blanks and a comment, up to the end of the line. -/
def skipComment? (text : List Char) : Option (List Char) :=
  match skipBlanks text with
  | '#' :: comment =>
    let line := comment.takeWhile fun character => character ≠ '\n' && character ≠ '\r'
    if line.any isControl then none
    else some (comment.dropWhile fun character => character ≠ '\n' && character ≠ '\r')
  | rest => some rest

/-- Take an end of line off. -/
def takeNewline? : List Char → Option (List Char)
  | '\n' :: rest => some rest
  | '\r' :: '\n' :: rest => some rest
  | _ => none

/-- Drop blanks, comments and ends of lines, a given number of lines at most. -/
def skipLines? : (lines : Nat) → List Char → Option (List Char)
  | 0, _ => none
  | lines + 1, text => do
    let rest ← skipComment? text
    match takeNewline? rest with
    | some rest => skipLines? lines rest
    | none => some rest

/-! ## Texts -/

/-- The character of a code point. -/
def characterOf? (point : Nat) : Option Char :=
  if point < 0xD800 ∨ (0xE000 ≤ point ∧ point < 0x110000) then some (Char.ofNat point) else none

/-- The character of an escape of one letter. -/
def shortEscape? (letter : Char) : Option Char :=
  if letter = '/' then none else Json.shortEscape? letter

/-- The rest of a text in double quotes. -/
def takeBasic? : List Char → Option (List Char × List Char)
  | [] => none
  | '"' :: rest => some ([], rest)
  | '\\' :: 'u' :: a :: b :: c :: d :: rest => do
    let character ← Json.hexUnit? a b c d >>= characterOf?
    let (content, rest) ← takeBasic? rest
    return (character :: content, rest)
  | '\\' :: 'U' :: a :: b :: c :: d :: e :: f :: g :: h :: rest => do
    let high ← Json.hexUnit? a b c d
    let low ← Json.hexUnit? e f g h
    let character ← characterOf? (high * 0x10000 + low)
    let (content, rest) ← takeBasic? rest
    return (character :: content, rest)
  | '\\' :: letter :: rest => do
    let character ← shortEscape? letter
    let (content, rest) ← takeBasic? rest
    return (character :: content, rest)
  | character :: rest =>
    if character = '\\' ∨ isControl character then none
    else (takeBasic? rest).map fun taken => (character :: taken.1, taken.2)

/-- The rest of a text in single quotes. -/
def takeLiteral? : List Char → Option (List Char × List Char)
  | [] => none
  | '\'' :: rest => some ([], rest)
  | character :: rest =>
    if isControl character then none
    else (takeLiteral? rest).map fun taken => (character :: taken.1, taken.2)

/-- Whether nothing but blanks stands before the end of the line. -/
def endsLine (text : List Char) : Bool := (takeNewline? (skipBlanks text)).isSome

/-- The rest of a text in three double quotes.  A backslash at the end of a line takes all blanks and ends
of lines after it away, which is what `skipping` stands for. -/
def takeLongBasic? (skipping : Bool) : List Char → Option (List Char × List Char)
  | [] => none
  | '"' :: '"' :: '"' :: '"' :: '"' :: rest => some (['"', '"'], rest)
  | '"' :: '"' :: '"' :: '"' :: rest => some (['"'], rest)
  | '"' :: '"' :: '"' :: rest => some ([], rest)
  | '\\' :: 'u' :: a :: b :: c :: d :: rest => do
    let character ← Json.hexUnit? a b c d >>= characterOf?
    let (content, rest) ← takeLongBasic? false rest
    return (character :: content, rest)
  | '\\' :: 'U' :: a :: b :: c :: d :: e :: f :: g :: h :: rest => do
    let high ← Json.hexUnit? a b c d
    let low ← Json.hexUnit? e f g h
    let character ← characterOf? (high * 0x10000 + low)
    let (content, rest) ← takeLongBasic? false rest
    return (character :: content, rest)
  | '\\' :: letter :: rest =>
    if endsLine (letter :: rest) then takeLongBasic? true rest
    else do
      let character ← shortEscape? letter
      let (content, rest) ← takeLongBasic? false rest
      return (character :: content, rest)
  | '\r' :: '\n' :: rest =>
    if skipping then takeLongBasic? true rest
    else (takeLongBasic? false rest).map fun taken => ('\n' :: taken.1, taken.2)
  | character :: rest =>
    if skipping && (isBlank character || character = '\n') then takeLongBasic? true rest
    else if character = '\\' || (isControl character && character ≠ '\n') then none
    else (takeLongBasic? false rest).map fun taken => (character :: taken.1, taken.2)

/-- The rest of a text in three single quotes. -/
def takeLongLiteral? : List Char → Option (List Char × List Char)
  | [] => none
  | '\'' :: '\'' :: '\'' :: '\'' :: '\'' :: rest => some (['\'', '\''], rest)
  | '\'' :: '\'' :: '\'' :: '\'' :: rest => some (['\''], rest)
  | '\'' :: '\'' :: '\'' :: rest => some ([], rest)
  | '\r' :: '\n' :: rest => (takeLongLiteral? rest).map fun taken => ('\n' :: taken.1, taken.2)
  | character :: rest =>
    if isControl character && character ≠ '\n' then none
    else (takeLongLiteral? rest).map fun taken => (character :: taken.1, taken.2)

/-- Drop the end of a line that stands right at the beginning. -/
def dropNewline (text : List Char) : List Char := (takeNewline? text).getD text

/-- A quoted text of any of the four kinds. -/
def takeText? : List Char → Option (String × List Char)
  | '"' :: '"' :: '"' :: rest =>
    (takeLongBasic? false (dropNewline rest)).map fun taken => (String.ofList taken.1, taken.2)
  | '"' :: rest => (takeBasic? rest).map fun taken => (String.ofList taken.1, taken.2)
  | '\'' :: '\'' :: '\'' :: rest =>
    (takeLongLiteral? (dropNewline rest)).map fun taken => (String.ofList taken.1, taken.2)
  | '\'' :: rest => (takeLiteral? rest).map fun taken => (String.ofList taken.1, taken.2)
  | _ => none

/-! ## Keys -/

/-- The characters of keys without quotes. -/
def isKeyCharacter (character : Char) : Bool :=
  character.isAlphanum || character = '_' || character = '-'

/-- One part of a key. -/
def takeKeyPart? : List Char → Option (String × List Char)
  | '"' :: rest => (takeBasic? rest).map fun taken => (String.ofList taken.1, taken.2)
  | '\'' :: rest => (takeLiteral? rest).map fun taken => (String.ofList taken.1, taken.2)
  | text =>
    let part := text.takeWhile isKeyCharacter
    if part = [] then none else some (String.ofList part, text.dropWhile isKeyCharacter)

/-- The greatest number of parts of a key. -/
def maxKeyParts : Nat := 79

/-- A key of a given number of parts at most: the parts before the last one, and the last one. -/
def takeKeyWithin? : (parts : Nat) → List Char → Option ((List String × String) × List Char)
  | 0, _ => none
  | parts + 1, text => do
    let (part, rest) ← takeKeyPart? text
    match skipBlanks rest with
    | '.' :: rest =>
      let ((path, key), rest) ← takeKeyWithin? parts (skipBlanks rest)
      return ((part :: path, key), rest)
    | _ => return (([], part), rest)

/-- A key. -/
def takeKey? : List Char → Option ((List String × String) × List Char) := takeKeyWithin? maxKeyParts

/-! ## Values -/

/-- The characters of numbers, words and moments. -/
def isWordCharacter (character : Char) : Bool :=
  character.isAlphanum || ['_', '+', '-', '.', ':'].contains character

/-- A word.  A date and a time may have a space between them. -/
def takeWord (text : List Char) : List Char × List Char :=
  let word := text.takeWhile isWordCharacter
  let rest := text.dropWhile isWordCharacter
  match rest with
  | ' ' :: digit :: _ =>
    if takeDate? word = some [] ∧ digit.isDigit then
      let later := rest.drop 1
      (word ++ ' ' :: later.takeWhile isWordCharacter, later.dropWhile isWordCharacter)
    else (word, rest)
  | _ => (word, rest)

/-- The greatest number of arrays and tables written in one piece that stand inside of each other. -/
def maxNesting : Nat := 79

mutual

/-- A value.  `fuel` bounds the nesting of the functions for values, and is no less than twice the length of
the text; `nesting` is the number of containers that may still be entered. -/
def takeValue? : (fuel nesting : Nat) → List Char → Option (Toml × List Char)
  | 0, _, _ => none
  | fuel + 1, nesting, text =>
    match text with
    | '"' :: _ => (takeText? text).map fun taken => (.string taken.1, taken.2)
    | '\'' :: _ => (takeText? text).map fun taken => (.string taken.1, taken.2)
    | '[' :: rest =>
      match nesting with
      | 0 => none
      | inside + 1 => (takeElements? fuel inside rest).map fun taken => (.array taken.1, taken.2)
    | '\x7b' :: rest =>
      match nesting with
      | 0 => none
      | inside + 1 =>
        match skipBlanks rest with
        | '\x7d' :: rest => some (.inline [], rest)
        | rest => do
          let (assignments, rest) ← takeAssignments? fuel inside rest
          let value ← inlineOf? assignments
          return (value, rest)
    | _ =>
      let (word, rest) := takeWord text
      (ofWord? word).map fun value => (value, rest)

/-- The elements of an array up to its end.  They may stand on lines of their own, and a comma may follow the
last one. -/
def takeElements? : (fuel nesting : Nat) → List Char → Option (List Toml × List Char)
  | 0, _, _ => none
  | fuel + 1, nesting, text => do
    match ← skipLines? (text.length + 1) text with
    | ']' :: rest => return ([], rest)
    | rest =>
      let (element, rest) ← takeValue? fuel nesting rest
      match ← skipLines? (rest.length + 1) rest with
      | ']' :: rest => return ([element], rest)
      | ',' :: rest =>
        let (others, rest) ← takeElements? fuel nesting rest
        return (element :: others, rest)
      | _ => none

/-- The assignments of a table that is written in one piece, up to its end. -/
def takeAssignments? : (fuel nesting : Nat) → List Char →
    Option (List (List String × String × Toml) × List Char)
  | 0, _, _ => none
  | fuel + 1, nesting, text => do
    let ((path, key), rest) ← takeKey? (skipBlanks text)
    match skipBlanks rest with
    | '=' :: rest =>
      let (value, rest) ← takeValue? fuel nesting (skipBlanks rest)
      match skipBlanks rest with
      | '\x7d' :: rest => return ([(path, key, value)], rest)
      | ',' :: rest =>
        let (others, rest) ← takeAssignments? fuel nesting rest
        return ((path, key, value) :: others, rest)
      | _ => none
    | _ => none

end

/-! ## Statements -/

/-- A statement: a header in one or two pairs of brackets, or a key and a value. -/
def takeStatement? (text : List Char) : Option (Statement × List Char) :=
  match text with
  | '[' :: '[' :: rest => do
    let ((path, key), rest) ← takeKey? (skipBlanks rest)
    match skipBlanks rest with
    | ']' :: ']' :: rest => return (.openRow path key, rest)
    | _ => none
  | '[' :: rest => do
    let ((path, key), rest) ← takeKey? (skipBlanks rest)
    match skipBlanks rest with
    | ']' :: rest => return (.openTable path key, rest)
    | _ => none
  | text => do
    let ((path, key), rest) ← takeKey? text
    match skipBlanks rest with
    | '=' :: rest =>
      let (value, rest) ← takeValue? (2 * rest.length + 2) maxNesting (skipBlanks rest)
      return (.assign path key value, rest)
    | _ => none

/-- All statements of a text, of which there is one on a line at most. -/
def takeStatements? : (lines : Nat) → List Char → Option (List Statement)
  | 0, _ => none
  | lines + 1, text => do
    match ← skipLines? (text.length + 1) text with
    | [] => return []
    | text =>
      let (statement, rest) ← takeStatement? text
      match ← skipComment? rest with
      | [] => return [statement]
      | rest =>
        let rest ← takeNewline? rest
        let others ← takeStatements? lines rest
        return statement :: others

/-- **Reading TOML:** the members of the document that a text writes. -/
def read? (text : String) : Option Members :=
  let characters := text.toList
  let characters := if characters.head? = some '\uFEFF' then characters.drop 1 else characters
  takeStatements? (characters.length + 1) characters >>= ofStatements?

end TermSpace.Toml
