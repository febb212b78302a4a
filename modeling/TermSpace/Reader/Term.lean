import TermSpace.Reader.Token
import TermSpace.Term.Basic

/-!
# Reading a term

A compound is written in one of two ways.  The *canonical* way puts commas after the operator and
between the components: `(f, a, b)`.  The *surface* way has none, and its meaning depends on the head:
a special head such as `=` becomes the operator of a compound, `*` makes a product, and every other head
is applied to the rest, so that `(f a b)` is the term `(^, f, (*, a, b))`.

Reading is a machine that takes one token at a time.  Its state is the stack of the parentheses that are
open, the innermost first, each with what has been read inside of it.  Which way a compound is written
shows at the token after its first term.
-/

namespace TermSpace.Reader

set_option autoImplicit false

/-! ## Errors -/

/-- What a reader met where it did not expect it. -/
inductive Found where
  | character (character : Char)
  | endOfInput
  | unfinishedLiteral

/-- How a text fails to be a term or a program. -/
inductive ReadError where
  /-- Something stands at a byte where it cannot. -/
  | unexpected (position : Nat) (found : Found)
  /-- The parenthesis at a byte is never closed. -/
  | unbalanced (position : Nat)
  /-- There is nothing to read. -/
  | empty

/-- What was found, as an error tells it. -/
def Found.describe : Found → String
  | .character met => "`" ++ met.toString ++ "`"
  | .endOfInput => "end of input"
  | .unfinishedLiteral => "unterminated string literal"

/-- What the user is told of an error. -/
def ReadError.message : ReadError → String
  | .unexpected position found =>
    "unexpected " ++ found.describe ++ " at byte " ++ toString position
  | .unbalanced position =>
    "unbalanced parentheses: expression opened at byte " ++ toString position ++ " is never closed"
  | .empty => "empty input: expected a term"

/-- The code that an error is looked up under. -/
def ReadError.code : ReadError → String
  | .unexpected _ _ => "metta::parse::unexpected"
  | .unbalanced _ => "metta::parse::unbalanced"
  | .empty => "metta::parse::empty"

/-- What may be done about an error. -/
def ReadError.help? : ReadError → Option String
  | .unexpected _ _ => some "Check for stray parentheses, commas or unterminated string literals."
  | .unbalanced _ => some "Add the missing `)`."
  | .empty => none

/-- A token stands where it cannot. -/
def unexpectedToken (placed : Placed) : ReadError :=
  .unexpected placed.position (.character placed.token.firstCharacter)

/-! ## The machine -/

/-- The heads that are operators of compounds when they stand first in a surface list. -/
def specialHeads : List String := ["=", "==", ":", "->", "λ", "lambda"]

/-- The term that a surface list writes. -/
def compose (head : Term) (arguments : List Term) : Term :=
  match head with
  | .atom name =>
    if specialHeads.contains name then .compound name arguments
    else if name = Term.productOperator then .product arguments
    else .apply head arguments
  | .compound _ _ => .apply head arguments

/-- An open parenthesis, the byte where it stands, and what has been read inside, last first.  Another
term may follow in each of them. -/
inductive Frame where
  /-- Nothing has been read yet. -/
  | fresh (opened : Nat)
  /-- A head, and arguments without a comma. -/
  | surface (opened : Nat) (head : Term) (arguments : List Term)
  /-- An operator and components, with a comma after the last of them. -/
  | canonical (opened : Nat) (operator : String) (components : List Term)

/-- The state of the machine. -/
inductive Stage where
  /-- A term may start, inside the open parentheses. -/
  | awaiting (frames : List Frame)
  /-- A component of a canonical list has been read, and a comma or a parenthesis must follow. -/
  | listed (opened : Nat) (operator : String) (components : List Term) (outer : List Frame)

/-- What a token leads to. -/
inductive Progress where
  | reading (stage : Stage)
  | done (term : Term)

/-- Put a complete term where it stands. -/
def place (term : Term) : List Frame → Progress
  | [] => .done term
  | .fresh opened :: outer => .reading (.awaiting (.surface opened term [] :: outer))
  | .surface opened head arguments :: outer =>
    .reading (.awaiting (.surface opened head (term :: arguments) :: outer))
  | .canonical opened operator components :: outer =>
    .reading (.listed opened operator (term :: components) outer)

/-- A closing parenthesis where a term may start. -/
def close? : List Frame → Option Progress
  | .fresh _ :: outer => some (place (.product []) outer)
  | .surface _ head arguments :: outer => some (place (compose head arguments.reverse) outer)
  | _ => none

/-- A comma where a term may start.  Only a list with nothing but an atom in it becomes canonical. -/
def continue? : List Frame → Option Stage
  | .surface opened (.atom operator) [] :: outer =>
    some (.awaiting (.canonical opened operator [] :: outer))
  | _ => none

/-- **One token.** -/
def advance (stage : Stage) (placed : Placed) : Except ReadError Progress :=
  match stage, placed.token with
  | .awaiting frames, .symbol text => .ok (place (.atom text) frames)
  | .awaiting frames, .literal text => .ok (place (.atom text) frames)
  | .awaiting frames, .opening => .ok (.reading (.awaiting (.fresh placed.position :: frames)))
  | .awaiting frames, .closing =>
    match close? frames with
    | some progress => .ok progress
    | none => .error (unexpectedToken placed)
  | .awaiting frames, .comma =>
    match continue? frames with
    | some next => .ok (.reading next)
    | none => .error (unexpectedToken placed)
  | .awaiting _, .unfinished => .error (.unexpected placed.position .unfinishedLiteral)
  | .listed opened operator components outer, .comma =>
    .ok (.reading (.awaiting (.canonical opened operator components :: outer)))
  | .listed _ operator components outer, .closing =>
    .ok (place (.compound operator components.reverse) outer)
  | .listed _ _ _ _, _ => .error (unexpectedToken placed)

/-- What is wrong if a text of `length` bytes ends here. -/
def Stage.endError (length : Nat) : Stage → ReadError
  | .awaiting [] => .unexpected length .endOfInput
  | .awaiting (.fresh opened :: _) => .unbalanced opened
  | .awaiting (.surface opened _ _ :: _) => .unbalanced opened
  | .awaiting (.canonical _ _ _ :: _) => .unexpected length .endOfInput
  | .listed opened _ _ _ => .unbalanced opened

/-- The state in which a term of its own is awaited. -/
def Stage.start : Stage := .awaiting []

/-- Read one term, and give it with the tokens after it. -/
def readFrom (length : Nat) : Stage → List Placed → Except ReadError (Term × List Placed)
  | stage, [] => .error (stage.endError length)
  | stage, placed :: rest =>
    match advance stage placed with
    | .error problem => .error problem
    | .ok (.done term) => .ok (term, rest)
    | .ok (.reading next) => readFrom length next rest

/-- **Reading a term.** The text must hold exactly one. -/
def readTerm (text : String) : Except ReadError Term :=
  match scan text with
  | [] => .error .empty
  | tokens =>
    match readFrom text.utf8ByteSize .start tokens with
    | .error problem => .error problem
    | .ok (term, []) => .ok term
    | .ok (_, placed :: _) => .error (unexpectedToken placed)

end TermSpace.Reader
