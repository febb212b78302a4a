import TermSpace.Classifier
import TermSpace.Config
import TermSpace.Grounded.Builtins
import TermSpace.Inference.Checker
import TermSpace.Reader.Program
import TermSpace.Reduction.Normalize

/-!
# Sessions

A session owns a space, macros, grounded functions, a checker and a classifier.  It loads programs: an
equation adds a rule, a type annotation of a name declares its type and is stored, everything else is
stored, and what is marked for evaluation is evaluated, each in its turn.
-/

namespace TermSpace

set_option autoImplicit false

/-- How loading fails. -/
inductive SessionError where
  | read (problem : Reader.ReadError)
  | reduce (problem : ReduceError)
  | type (problem : TypeError)

/-- What a program is run in. -/
structure Session where
  config : Config
  space : Space
  macros : MacroTable
  registry : Registry
  checker : Checker
  classifier : Classifier
  /-- The supply of type variables, past all that the declarations mention. -/
  supply : Nat

namespace Session

/-- A session with the functions and declarations that are always there. -/
def ofConfig (config : Config) : Session where
  config
  space := ∅
  macros := .empty config.maxMacroDepth
  registry := Builtins.registry
  checker := .ofStrategy config.strategy
  classifier := ∅
  supply := Checker.startSupply

/-- Let a listener be told of every atom that is added from now on. -/
def withListener (session : Session) : Session :=
  { session with space := session.space.withListener }

/-- What terms are reduced with. -/
def reducer (session : Session) : Reducer :=
  ⟨session.space, session.registry, session.config.maxSteps⟩

/-- Add an atom to the space, and say whether it is new. -/
def addAtom (session : Session) (atom : Term) : Bool × Session :=
  let (new, space) := session.space.addAtom atom
  (new, { session with space })

/-- Take an atom out of the space, and say whether it was there. -/
def removeAtom (session : Session) (atom : Term) : Bool × Session :=
  let (present, space) := session.space.removeAtom atom
  (present, { session with space })

/-- Add a rule to the space. -/
def addRule (session : Session) (rule : Rule) : Session :=
  { session with space := session.space.addRule rule }

/-- Drop all atoms and rules, and keep everything else. -/
def clear (session : Session) : Session := { session with space := session.space.clear }

/-- Define a macro. -/
def defineMacro (session : Session) (name : String) (definition : Macro) : Session :=
  { session with macros := session.macros.define name definition }

/-- Register a grounded function. -/
def register (session : Session) (name : String) (function : GroundedFunction) : Session :=
  { session with registry := session.registry.register name function }

/-- Call a grounded function for a term of the space. -/
def execute (session : Session) (name : String) (arguments : List Term) :
    Except GroundedError Term :=
  session.registry.execute session.space name arguments

/-- **Evaluation:** expand macros, then normalize. -/
def evaluate (session : Session) (term : Term) : Except ReduceError Term :=
  match session.macros.expand term with
  | .error problem => .error (.matching problem)
  | .ok expansion => session.reducer.normalize expansion.term

/-- **Declaration** of the type of a name, for the checker, and for the classifier if the type is the name of a
shape. -/
def declare (session : Session) (name : String) (ty : Ty) : Session :=
  let checker := session.checker.declare name ty
  let shape? :=
    match ty with
    | .base base => Shape.ofName? base
    | _ => none
  match shape? with
  | some shape => { session with checker, classifier := session.classifier.declare name shape }
  | none => { session with checker }

/-- Infer the type of a term. -/
def infer (session : Session) (term : Term) : Except TypeError Inferred :=
  session.checker.infer term session.supply

/-- Check a term against an expected type. -/
def check (session : Session) (term : Term) (expected : Ty) : Except TypeError Ty :=
  session.checker.check term expected session.supply

/-- Check the shape of a term. -/
def annotate (session : Session) (term : Term) (expected : String) :
    Except TypeError Shape × Session :=
  let (answer, classifier) := session.classifier.annotate term expected
  (answer, { session with classifier })

/-- Read a type expression, drawing on the supply. -/
def readTy (session : Session) (term : Term) : Except TypeError (Ty × Session) :=
  (Ty.ofTerm term session.supply).map fun (ty, supply) => (ty, { session with supply })

/-! ## Programs -/

/-- The two components of an equation. -/
def equation? : Term → Option (Term × Term)
  | .compound operator [pattern, result] => if operator = "=" then some (pattern, result) else none
  | _ => none

/-- The name and the type expression of an annotated atom. -/
def declaration? : Term → Option (String × Term)
  | .compound operator [.atom name, expression] =>
    if operator = ":" then some (name, expression) else none
  | _ => none

/-- **One statement:** its result, if it has one, and the session after it. -/
def run (session : Session) (statement : Reader.Statement) :
    Except SessionError (Option Term × Session) :=
  if statement.evaluate then
    match session.evaluate statement.term with
    | .error problem => .error (.reduce problem)
    | .ok result => .ok (some result, session)
  else
    match equation? statement.term with
    | some (pattern, result) => .ok (none, session.addRule ⟨pattern, .template result⟩)
    | none =>
      match declaration? statement.term with
      | some (name, expression) =>
        match session.readTy expression with
        | .error problem => .error (.type problem)
        | .ok (ty, session) => .ok (none, ((session.declare name ty).addAtom statement.term).2)
      | none => .ok (none, (session.addAtom statement.term).2)

/-- Run statements up to the first that fails, and collect their results.  The session is the one after the
last statement that did not fail. -/
def runAll (session : Session) :
    List Reader.Statement → Except SessionError (List Term) × Session
  | [] => (.ok [], session)
  | statement :: rest =>
    match session.run statement with
    | .error problem => (.error problem, session)
    | .ok (result?, next) =>
      let (outcome, last) := next.runAll rest
      (outcome.map fun results => result?.toList ++ results, last)

/-- **Loading** a program. -/
def load (session : Session) (text : String) : Except SessionError (List Term) × Session :=
  match Reader.readProgram text with
  | .error problem => (.error (.read problem), session)
  | .ok statements => session.runAll statements

end Session

end TermSpace
