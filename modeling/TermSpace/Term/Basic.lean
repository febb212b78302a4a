/-!
# Terms

A term is an atom, which carries a name, or a compound, which carries an operator and its components
in order.  The first character of a name is load-bearing: `$` and `?` mark a variable, `&` marks a
reference to a grounded function.

Two operators have a meaning of their own.  A *product* `(*, a, b)` is an argument list, and an
*application* `(^, head, (*, a, b))` applies a head to one.
-/

namespace TermSpace

set_option autoImplicit false

/-- An expression tree. -/
inductive Term where
  /-- A leaf: a symbol, a literal, a variable or a grounded reference. -/
  | atom (name : String)
  /-- An operator over components. -/
  | compound (operator : String) (components : List Term)

namespace Term

instance : Inhabited Term := ⟨.atom ""⟩

mutual

/-- Equality of terms is structural and decidable. -/
def decEq : (first second : Term) → Decidable (first = second)
  | .atom first, .atom second =>
    if same : first = second then isTrue (same ▸ rfl)
    else isFalse fun equal => same (by injection equal)
  | .compound operator₁ components₁, .compound operator₂ components₂ =>
    if sameOperator : operator₁ = operator₂ then
      match decEqAll components₁ components₂ with
      | isTrue same => isTrue (by rw [sameOperator, same])
      | isFalse apart => isFalse fun equal => apart (by injection equal)
    else isFalse fun equal => sameOperator (by injection equal)
  | .atom _, .compound _ _ => isFalse (by simp)
  | .compound _ _, .atom _ => isFalse (by simp)

/-- Equality of component lists. -/
def decEqAll : (first second : List Term) → Decidable (first = second)
  | [], [] => isTrue rfl
  | head₁ :: tail₁, head₂ :: tail₂ =>
    match decEq head₁ head₂ with
    | isTrue sameHead =>
      match decEqAll tail₁ tail₂ with
      | isTrue sameTail => isTrue (by rw [sameHead, sameTail])
      | isFalse apart => isFalse fun equal => apart (by injection equal)
    | isFalse apart => isFalse fun equal => apart (by injection equal)
  | [], _ :: _ => isFalse (by simp)
  | _ :: _, [] => isFalse (by simp)

end

instance : DecidableEq Term := decEq

/-! ## Vocabulary -/

/-- The operator of an application. -/
def applyOperator : String := "^"

/-- The operator of a product. -/
def productOperator : String := "*"

/-- The name of the truth that comparisons and connectives answer with. -/
def trueName : String := "True"

/-- The name of the falsehood that comparisons and connectives answer with. -/
def falseName : String := "False"

/-- Variable names start with `$` or `?`. -/
def isVariableName (name : String) : Bool :=
  match name.toList with
  | '$' :: _ => true
  | '?' :: _ => true
  | _ => false

/-- Grounded functions are named with a leading `&`. -/
def isGroundedName (name : String) : Bool :=
  match name.toList with
  | '&' :: _ => true
  | _ => false

/-! ## Building -/

/-- The variable of a name, which gets a `$` in front unless it is a variable name already. -/
def variableNamed (name : String) : Term :=
  if isVariableName name then .atom name else .atom ("$" ++ name)

/-- An argument list. -/
def product (arguments : List Term) : Term := .compound productOperator arguments

/-- A head applied to an argument list. -/
def apply (head : Term) (arguments : List Term) : Term :=
  .compound applyOperator [head, product arguments]

/-- The atom of a truth value. -/
def boolean (value : Bool) : Term := .atom (if value then trueName else falseName)

/-! ## Taking apart -/

/-- The name of an atom, the operator of a compound. -/
def name : Term → String
  | .atom name => name
  | .compound operator _ => operator

/-- The operator of a compound; an atom has none. -/
def operator? : Term → Option String
  | .atom _ => none
  | .compound operator _ => some operator

/-- The components of a compound; an atom has none. -/
def components : Term → List Term
  | .atom _ => []
  | .compound _ components => components

/-- The name of the first component, if that is an atom. -/
def headName? (term : Term) : Option String :=
  match term.components with
  | .atom name :: _ => some name
  | _ => none

/-- **Applications.** The head and the arguments of a compound `^` over two components.  The arguments
are the components of the second one, whatever its operator is. -/
def application? : Term → Option (Term × List Term)
  | .compound operator [head, arguments] =>
    if operator = applyOperator then some (head, arguments.components) else none
  | _ => none

/-! ## Kinds of atoms -/

/-- Whether the term is an atom. -/
def isAtomic : Term → Bool
  | .atom _ => true
  | .compound _ _ => false

/-- Whether the term is a variable. -/
def isVariable : Term → Bool
  | .atom name => isVariableName name
  | .compound _ _ => false

/-- Whether the term refers to a grounded function. -/
def isGroundedReference : Term → Bool
  | .atom name => isGroundedName name
  | .compound _ _ => false

/-- Whether a name is a text literal: two or more characters, of which the first and the last are
double quotes. -/
def isTextLiteralName (name : String) : Bool :=
  match name.toList with
  | '"' :: second :: rest => (second :: rest).getLast? = some '"'
  | _ => false

/-- Whether the term is a text literal. -/
def isTextLiteral : Term → Bool
  | .atom name => isTextLiteralName name
  | .compound _ _ => false

/-- The four spellings of a truth value. -/
def truthLiterals : List String := [trueName, falseName, "true", "false"]

/-- Whether the term is a truth value in one of its spellings. -/
def isTruthLiteral : Term → Bool
  | .atom name => truthLiterals.contains name
  | .compound _ _ => false

/-! ## Size -/

mutual

/-- The number of nodes. -/
def size : Term → Nat
  | .atom _ => 1
  | .compound _ components => 1 + sizeAll components

/-- The number of nodes in a component list. -/
def sizeAll : List Term → Nat
  | [] => 0
  | component :: rest => size component + sizeAll rest

end

end Term

end TermSpace
