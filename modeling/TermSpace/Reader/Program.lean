import TermSpace.Reader.Term

/-!
# Reading a program

A program is a row of terms.  An exclamation mark right before a term asks for its evaluation.  The mark
may stand apart, or be the first character of the symbol that the term is.
-/

namespace TermSpace.Reader

set_option autoImplicit false

/-- A term of a program, and whether it is to be evaluated. -/
structure Statement where
  term : Term
  evaluate : Bool
deriving DecidableEq

/-- Take an evaluation mark off the first token of a statement.  Nothing is left of a mark that stands
apart. -/
def takeMark (placed : Placed) : Bool × Option Placed :=
  match placed.token with
  | .symbol text =>
    match text.toList with
    | ['!'] => (true, none)
    | '!' :: rest => (true, some ⟨.symbol (String.ofList rest), placed.position + 1⟩)
    | _ => (false, some placed)
  | _ => (false, some placed)

/-- Read statements.  `current` is the statement under way: whether it is to be evaluated, and the state of
its term. -/
def readStatements (length : Nat) :
    (current : Option (Bool × Stage)) → List Placed → Except ReadError (List Statement)
  | none, [] => .ok []
  | some (_, stage), [] => .error (stage.endError length)
  | current, placed :: rest =>
    let (evaluate, stage, token?) :=
      match current with
      | some (evaluate, stage) => (evaluate, stage, some placed)
      | none => ((takeMark placed).1, Stage.start, (takeMark placed).2)
    match token? with
    | none => readStatements length (some (evaluate, stage)) rest
    | some token =>
      match advance stage token with
      | .error problem => .error problem
      | .ok (.reading next) => readStatements length (some (evaluate, next)) rest
      | .ok (.done term) =>
        match readStatements length none rest with
        | .error problem => .error problem
        | .ok statements => .ok (⟨term, evaluate⟩ :: statements)

/-- **Reading a program.** -/
def readProgram (text : String) : Except ReadError (List Statement) :=
  readStatements text.utf8ByteSize none (scan text)

end TermSpace.Reader
