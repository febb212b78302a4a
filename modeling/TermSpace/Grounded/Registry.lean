import TermSpace.Space.Basic

/-!
# Grounded functions

A grounded function is native: it takes arguments to a term, and may look at the space of the term that
calls it.  Functions are known by names with a leading `&`, and a name without it means the same function.
-/

namespace TermSpace

set_option autoImplicit false

/-- How the call of a grounded function fails. -/
inductive GroundedError where
  /-- There is no function of the name. -/
  | notFound (name : String)
  /-- The function gives up, and says why. -/
  | execution (name message : String)
  /-- The number of arguments is wrong. -/
  | arity (name expected : String) (actual : Nat)
  /-- An argument spells no number. -/
  | notANumber (name : String) (argument : Term)
  /-- The function matches, and the match has no outcome. -/
  | matching (problem : MatchError)

/-- What the user is told of an error. -/
def GroundedError.message : GroundedError → String
  | .notFound name => "grounded atom not found: " ++ name
  | .execution name message => "grounded atom " ++ name ++ " failed: " ++ message
  | .arity name expected actual =>
    "grounded atom " ++ name ++ " expects " ++ expected ++ " argument(s), got " ++ toString actual
  | .notANumber name argument =>
    "grounded atom " ++ name ++ ": " ++ argument.render ++ " is not a number"
  | .matching problem => problem.message

/-- The code that an error is looked up under. -/
def GroundedError.code : GroundedError → String
  | .notFound _ => "metta::grounded::not_found"
  | .execution _ _ => "metta::grounded::execution"
  | .arity _ _ _ => "metta::grounded::arity"
  | .notANumber _ _ => "metta::grounded::not_a_number"
  | .matching _ => "metta::match::circular"

/-- What may be done about an error. -/
def GroundedError.help? : GroundedError → Option String
  | .notFound _ => some <|
    "No native function is registered under this name. " ++
    "Register it with `GroundedRegistry::register`."
  | .arity _ _ _ => some "Check the number of components in the argument product."
  | .notANumber _ _ => some <|
    "Arithmetic builtins coerce atom names to numbers; " ++
    "compound or symbolic arguments are rejected."
  | .execution _ _ => none
  | .matching _ => none

/-- A native function of the calling space and the arguments. -/
abbrev GroundedFunction := Space → List Term → Except GroundedError Term

/-- The form of a name that functions are known by. -/
def groundedName (name : String) : String :=
  if Term.isGroundedName name then name else "&" ++ name

/-- The functions that can be called, by their names. -/
structure Registry where
  functions : Dict String GroundedFunction

namespace Registry

/-- The registry without functions. -/
def empty : Registry := ⟨∅⟩

instance : EmptyCollection Registry := ⟨empty⟩

/-- Register a function, in place of any other of the name. -/
def register (registry : Registry) (name : String) (function : GroundedFunction) : Registry :=
  ⟨registry.functions.insert (groundedName name) function⟩

/-- Whether there is a function of a name. -/
def contains (registry : Registry) (name : String) : Bool :=
  registry.functions.contains (groundedName name)

/-- The names of all functions, ascending. -/
def names (registry : Registry) : List String := registry.functions.keys

/-- Call a function for a term of a space. -/
def execute (registry : Registry) (space : Space) (name : String) (arguments : List Term) :
    Except GroundedError Term :=
  match registry.functions.get? (groundedName name) with
  | none => .error (.notFound (groundedName name))
  | some function => function space arguments

end Registry

end TermSpace
