import EntityStore.Failure
import EntityStore.Text.Lowercase
import EntityStore.Value.Order

/-!
# Filter operators

An operator compares a stored value with an operand.  A stored list satisfies an operator when one
of its items does, and values of different families satisfy none.
-/

namespace EntityStore

/-- How a stored value is compared with an operand. -/
inductive Operator where
  | equal
  | notEqual
  | greaterThan
  | greaterOrEqual
  | lessThan
  | lessOrEqual
  | isIn
deriving DecidableEq

namespace Operator

/-- All operators, in the order in which they are declared. -/
def all : List Operator :=
  [.equal, .notEqual, .greaterThan, .greaterOrEqual, .lessThan, .lessOrEqual, .isIn]

/-- The written form of an operator. -/
def symbol : Operator → String
  | .equal => "="
  | .notEqual => "!="
  | .greaterThan => ">"
  | .greaterOrEqual => ">="
  | .lessThan => "<"
  | .lessOrEqual => "<="
  | .isIn => "in"

/-- The operator with a written form; equality may also be written twice. -/
def ofSymbol? (symbol : String) : Option Operator :=
  if symbol = "=" ∨ symbol = "==" then some .equal
  else if symbol = "!=" then some .notEqual
  else if symbol = ">" then some .greaterThan
  else if symbol = ">=" then some .greaterOrEqual
  else if symbol = "<" then some .lessThan
  else if symbol = "<=" then some .lessOrEqual
  else if symbol = "in" then some .isIn
  else none

/-- Reads an operator in any letter case. -/
def parse (token : String) : Except Failure Operator :=
  let symbol := Text.lowercase token
  match ofSymbol? symbol with
  | some operator => return operator
  | none => throw (.unsupportedOperator symbol)

/-- Whether the store evaluates an operator itself. -/
def isPrimitive : Operator → Bool
  | .notEqual | .isIn => false
  | _ => true

/-- Whether the operator compares by the order of values. -/
def isInequality : Operator → Bool
  | .greaterThan | .greaterOrEqual | .lessThan | .lessOrEqual => true
  | _ => false

/-- Which outcomes of comparing the stored value with the operand an operator accepts. -/
def accepts : Operator → Ordering → Bool
  | .equal, o | .isIn, o => o == .eq
  | .notEqual, o => o != .eq
  | .greaterThan, o => o == .gt
  | .greaterOrEqual, o => o != .lt
  | .lessThan, o => o == .lt
  | .lessOrEqual, o => o != .gt

/-- Whether two values of one family compare as the operator asks. -/
def compares (op : Operator) (stored operand : Value) : Bool :=
  stored.sameFamily operand && op.accepts (stored.order operand)

/-- Whether one stored value satisfies the operator; membership in a list of choices is equality
with one of them. -/
def holdsForOne (op : Operator) (stored operand : Value) : Bool :=
  match op, operand with
  | .isIn, .list choices => choices.any fun choice => Operator.equal.compares stored choice
  | op, operand => op.compares stored operand

mutual

/-- Whether a stored value satisfies the operator. -/
def holds (op : Operator) : Value → Value → Bool
  | .list items, operand => holdsForSome op items operand
  | stored, operand => op.holdsForOne stored operand

/-- Whether one of several stored values satisfies the operator. -/
def holdsForSome (op : Operator) : List Value → Value → Bool
  | [], _ => false
  | item :: rest, operand => holds op item operand || holdsForSome op rest operand

end

end Operator

end EntityStore
