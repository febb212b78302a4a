import TermSpace.Grounded.Registry
import TermSpace.Term.Numeric

/-!
# The functions that are always there

Arithmetic over any number of arguments, comparison of two, connectives of truth values, and two
functions about the space: `&self` is its own name, and `&match` instantiates a template for each atom
that a pattern matches.

Arguments are read from left to right, and a call fails at the first one that it cannot use.
-/

namespace TermSpace.Builtins

set_option autoImplicit false

/-- The name by which a space refers to itself. -/
def selfName : String := "&self"

/-- The number that an argument spells. -/
def readNumber (name : String) (argument : Term) : Except GroundedError Float :=
  match argument.number? with
  | some value => .ok value
  | none => .error (.notANumber name argument)

/-! ## Arithmetic -/

/-- Take arguments into a running result one by one. -/
def accumulate (name : String) (combine : Float → Float → Except GroundedError Float)
    (result : Float) : List Term → Except GroundedError Float
  | [] => .ok result
  | argument :: rest => do
    let value ← readNumber name argument
    accumulate name combine (← combine result value) rest

/-- A function that starts from a number of its own. -/
def fromSeed (name : String) (combine : Float → Float → Except GroundedError Float)
    (seed : Float) : GroundedFunction := fun _ arguments =>
  (accumulate name combine seed arguments).map Term.number

/-- A function that starts from its first argument, so that there must be one. -/
def fromFirst (name : String) (combine : Float → Float → Except GroundedError Float) :
    GroundedFunction := fun _ arguments =>
  match arguments with
  | [] => .error (.arity name "at least 1" 0)
  | first :: rest => do
    let start ← readNumber name first
    (accumulate name combine start rest).map Term.number

/-- A quotient; there is none by zero of either sign. -/
def divide (dividend divisor : Float) : Except GroundedError Float :=
  if divisor == 0 then .error (.execution "&/" "division by zero") else .ok (dividend / divisor)

/-! ## Comparison and connectives -/

/-- A function of exactly two arguments. -/
def ofTwo (name : String) (answer : Term → Term → Except GroundedError Bool) : GroundedFunction :=
  fun _ arguments =>
    match arguments with
    | [first, second] => (answer first second).map Term.boolean
    | _ => .error (.arity name "2" arguments.length)

/-- A comparison of two numbers. -/
def comparison (name : String) (holds : Float → Float → Bool) : GroundedFunction :=
  ofTwo name fun first second => do
    let left ← readNumber name first
    let right ← readNumber name second
    return holds left right

/-- Two numbers are equal by value, and anything else is equal if it is the same term. -/
def sameValue (first second : Term) : Bool :=
  match first.number?, second.number? with
  | some left, some right => left == right
  | _, _ => first = second

/-- Whether a term is the one truth that connectives know. -/
def isTrue (term : Term) : Bool := term = .atom Term.trueName

/-- Negation. -/
def negation : GroundedFunction := fun _ arguments =>
  match arguments with
  | [argument] => .ok (.boolean (!isTrue argument))
  | _ => .error (.arity "&not" "1" arguments.length)

/-! ## The space -/

/-- **Matching in the space.** The product of the template's instances, one for each atom that the pattern
matches. -/
def matchAtoms : GroundedFunction := fun space arguments =>
  match arguments with
  | [target, pattern, template] =>
    if target.name ≠ selfName then
      .error (.execution "&match" (target.render ++ " is not a space reference"))
    else match space.query pattern with
      | .error problem => .error (.matching problem)
      | .ok found => .ok (.product (found.map fun bindings => template.substitute bindings))
  | _ => .error (.arity "&match" "3" arguments.length)

/-- All of these functions. -/
def registry : Registry :=
  let functions : List (String × GroundedFunction) :=
    [("&self", fun _ _ => .ok (.atom selfName)),
      ("&match", matchAtoms),
      ("&+", fromSeed "&+" (fun left right => .ok (left + right)) 0),
      ("&*", fromSeed "&*" (fun left right => .ok (left * right)) 1),
      ("&-", fromFirst "&-" fun left right => .ok (left - right)),
      ("&/", fromFirst "&/" divide),
      ("&<", comparison "&<" fun left right => left < right),
      ("&>", comparison "&>" fun left right => left > right),
      ("&==", ofTwo "&==" fun first second => .ok (sameValue first second)),
      ("&and", fun _ arguments => .ok (.boolean (arguments.all isTrue))),
      ("&or", fun _ arguments => .ok (.boolean (arguments.any isTrue))),
      ("&not", negation)]
  functions.foldl (fun registry entry => registry.register entry.1 entry.2) ∅

end TermSpace.Builtins
