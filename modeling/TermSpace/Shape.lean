import TermSpace.Term.Numeric

/-!
# Shapes of terms

Nine shapes classify terms by what they look like.  They form a tree of generality: everything is an
atom; symbols, expressions, variables and grounded references are the four kinds of atoms; numbers,
strings and truth values are symbols; lists are expressions.
-/

namespace TermSpace

set_option autoImplicit false

/-- What a term looks like. -/
inductive Shape where
  | atom
  | symbol
  | number
  | string
  | bool
  | variable
  | grounded
  | expression
  | list
deriving DecidableEq

namespace Shape

/-- All shapes, in the order in which they are listed. -/
def all : List Shape :=
  [.atom, .symbol, .number, .string, .bool, .variable, .grounded, .expression, .list]

/-- The name of a shape. -/
def name : Shape → String
  | .atom => "Atom"
  | .symbol => "Symbol"
  | .number => "Number"
  | .string => "String"
  | .bool => "Bool"
  | .variable => "Variable"
  | .grounded => "Grounded"
  | .expression => "Expression"
  | .list => "List"

/-- The shape of a name. -/
def ofName? (name : String) : Option Shape := all.find? fun shape => shape.name = name

/-- The shapes right above a shape. -/
def parents : Shape → List Shape
  | .atom => []
  | .symbol => [.atom]
  | .expression => [.atom]
  | .variable => [.atom]
  | .grounded => [.atom]
  | .number => [.symbol]
  | .string => [.symbol]
  | .bool => [.symbol]
  | .list => [.expression]

/-- The shapes at most so many steps above a shape, itself among them. -/
def above : (steps : Nat) → Shape → List Shape
  | 0, shape => [shape]
  | steps + 1, shape => shape :: shape.parents.flatMap (above steps)

/-- **Generality.** No shape is more than two steps below `atom`. -/
def isSubtypeOf (lower upper : Shape) : Bool := (above 2 lower).contains upper

/-- The order in which shapes are tried on a term.  The most general one is not tried. -/
def precedence : List Shape :=
  [.variable, .grounded, .number, .string, .bool, .list, .expression, .symbol]

/-- Whether a term has a shape. -/
def fits (term : Term) : Shape → Bool
  | .atom => true
  | .variable => term.isVariable
  | .grounded => term.isGroundedReference
  | .number => term.number?.isSome
  | .string => term.isTextLiteral
  | .bool => term.isTruthLiteral
  | .list => term.operator? = some Term.productOperator
  | .expression => !term.isAtomic
  | .symbol => term.isAtomic

/-- The first shape that a term has. -/
def ofTerm (term : Term) : Shape := (precedence.find? (fits term)).getD .atom

end Shape

end TermSpace
