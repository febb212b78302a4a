import TermSpace.Inference.Constraints

/-!
# Inference and checking

A checker knows a strategy and the declared types of names.  Inference collects the constraints of a
term and solves them; checking asks in addition, after everything else, that the term has an expected
type.
-/

namespace TermSpace

set_option autoImplicit false

/-- What is known of a term whose constraints have a solution. -/
structure Inferred where
  /-- The type of the term under the solution. -/
  ty : Ty
  solution : Subst
  /-- The types of its variables under the solution; of a name that was bound more than once, that of the
  first binding. -/
  variableTypes : Dict String Ty

/-- A strategy and declarations. -/
structure Checker where
  strategy : Strategy
  declarations : Dict String Ty

namespace Checker

/-- Declare a name.  Free variables of the type are quantified, so that each use of the name has an
instance of its own. -/
def declare (checker : Checker) (name : String) (ty : Ty) : Checker :=
  { checker with declarations := checker.declarations.insert name ty.generalize }

/-- The declared type of a name. -/
def declared? (checker : Checker) (name : String) : Option Ty := checker.declarations.get? name

/-- The types of the grounded functions that are always there. -/
def builtinTypes : List (String × Ty) :=
  [("&+", .arrow .number .number), ("&-", .arrow .number .number),
    ("&*", .arrow .number .number), ("&/", .arrow .number .number),
    ("&<", .arrow .number .bool), ("&>", .arrow .number .bool),
    ("&and", .arrow .bool .bool), ("&or", .arrow .bool .bool), ("&not", .arrow .bool .bool),
    ("&==", .quantified 0 (.arrow (.var 0) .bool))]

/-- The supply of type variables next to the declarations that are always there. -/
def startSupply : Nat := 1

/-- The checker with the declarations that are always there. -/
def ofStrategy (strategy : Strategy) : Checker :=
  builtinTypes.foldl (fun checker entry => checker.declare entry.1 entry.2) ⟨strategy, ∅⟩

/-- Solve the constraints of a term, together with that of an expected type if there is one. -/
def run (checker : Checker) (term : Term) (expected? : Option Ty) (supply : Nat) :
    Except TypeError Inferred := do
  let (ty, state) ← Inference.collect checker.declarations (.start supply) term
  let state :=
    match expected? with
    | some expected => state.require expected ty term
    | none => state
  let (solution, _) ← checker.strategy.solve state.constraints.reverse state.supply
  return ⟨solution.apply ty, solution, state.seen.mapValues solution.apply⟩

/-- **Inference,** with fresh type variables from a supply. -/
def infer (checker : Checker) (term : Term) (supply : Nat) : Except TypeError Inferred :=
  checker.run term none supply

/-- **Checking** against an expected type, with fresh type variables from a supply. -/
def check (checker : Checker) (term : Term) (expected : Ty) (supply : Nat) : Except TypeError Ty :=
  (checker.run term (some expected) supply).map (·.ty)

end Checker

end TermSpace
