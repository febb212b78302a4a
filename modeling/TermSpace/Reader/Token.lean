import TermSpace.Text.Blank

/-!
# Tokens

A text is read as parentheses, commas, text literals and symbols.  A text literal runs from a double
quote to the next one that no backslash escapes; a symbol is a longest row of characters that are not
blank and have no other meaning.  Blanks, and comments from a semicolon to the end of the line, only
separate.

Scanning goes through the characters once.  At every character it is in one `Mode`, and what it emits
there depends on nothing but the mode, the position and the character.
-/

namespace TermSpace.Reader

set_option autoImplicit false

/-- The least pieces of a text that have a meaning. -/
inductive Token where
  | opening
  | closing
  | comma
  | symbol (text : String)
  /-- A complete text literal, quotes included. -/
  | literal (text : String)
  /-- A text literal that the text ends inside of. -/
  | unfinished
deriving DecidableEq

/-- The character that a token starts with. -/
def Token.firstCharacter : Token → Char
  | .opening => '('
  | .closing => ')'
  | .comma => ','
  | .symbol text => text.toList.headD ' '
  | .literal _ => '"'
  | .unfinished => '"'

/-- A token and the byte at which it starts. -/
structure Placed where
  token : Token
  position : Nat
deriving DecidableEq

/-- What scanning is in the middle of.  Characters collected so far are kept last first. -/
inductive Mode where
  | between
  | comment
  | symbol (start : Nat) (collected : List Char)
  | literal (start : Nat) (collected : List Char) (escaped : Bool)

/-- Whether a character that is not blank ends a symbol all the same. -/
def isDelimiter (character : Char) : Bool :=
  ['(', ')', ',', ';', '"'].contains character

/-- Whether a character belongs to symbols. -/
def isSymbolCharacter (character : Char) : Bool :=
  !Text.isBlank character && !isDelimiter character

/-- What a character begins where nothing is under way. -/
def begin (position : Nat) (character : Char) : List Placed × Mode :=
  if isSymbolCharacter character then ([], .symbol position [character])
  else if character = '(' then ([⟨.opening, position⟩], .between)
  else if character = ')' then ([⟨.closing, position⟩], .between)
  else if character = ',' then ([⟨.comma, position⟩], .between)
  else if character = ';' then ([], .comment)
  else if character = '"' then ([], .literal position [character] false)
  else ([], .between)

/-- One character of scanning: the tokens that it completes, and the mode after it. -/
def step (mode : Mode) (position : Nat) (character : Char) : List Placed × Mode :=
  match mode with
  | .between => begin position character
  | .comment => ([], if character = '\n' then .between else .comment)
  | .symbol start collected =>
    if isSymbolCharacter character then ([], .symbol start (character :: collected))
    else
      let (tokens, next) := begin position character
      (⟨.symbol (String.ofList collected.reverse), start⟩ :: tokens, next)
  | .literal start collected true => ([], .literal start (character :: collected) false)
  | .literal start collected false =>
    if character = '\\' then ([], .literal start (character :: collected) true)
    else if character = '"' then
      ([⟨.literal (String.ofList (character :: collected).reverse), start⟩], .between)
    else ([], .literal start (character :: collected) false)

/-- The tokens that the end of the text completes. -/
def finish : Mode → List Placed
  | .between => []
  | .comment => []
  | .symbol start collected => [⟨.symbol (String.ofList collected.reverse), start⟩]
  | .literal start _ _ => [⟨.unfinished, start⟩]

/-- Scan characters from a mode and a byte position on. -/
def scanFrom (mode : Mode) (position : Nat) : List Char → List Placed
  | [] => finish mode
  | character :: rest =>
    let (tokens, next) := step mode position character
    tokens ++ scanFrom next (position + character.utf8Size) rest

/-- The tokens of a text. -/
def scan (text : String) : List Placed := scanFrom .between 0 text.toList

end TermSpace.Reader
