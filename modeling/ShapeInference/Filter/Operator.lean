import ShapeInference.Filter.Basic
import ShapeInference.Filter.Token

/-! Operators between filters, from those that bind least to those that bind most. -/

set_option autoImplicit false

namespace ShapeInference.Filter

inductive Operator where
  | pipe
  | comma
  | alternative
  | either
  | both
  | equal
  | differ
  deriving DecidableEq, Repr

namespace Operator

def ofToken? : Token → Option Operator
  | .symbol "|" => some .pipe
  | .symbol "," => some .comma
  | .symbol "//" => some .alternative
  | .word "or" => some .either
  | .word "and" => some .both
  | .symbol "==" => some .equal
  | .symbol "!=" => some .differ
  | _ => none

def rank : Operator → Nat
  | .pipe => 0
  | .comma => 1
  | .alternative => 2
  | .either => 3
  | .both => 4
  | .equal => 5
  | .differ => 5

/-- The least rank of an operator that may stand in the right operand. -/
def rightFloor (operator : Operator) : Nat :=
  match operator with
  | .pipe => operator.rank
  | .alternative => operator.rank
  | _ => operator.rank + 1

def apply : Operator → Filter → Filter → Filter
  | .pipe => .pipe
  | .comma => .comma
  | .alternative => .alternative
  | .either => .either
  | .both => .both
  | .equal => .equal
  | .differ => .differ

end Operator

end ShapeInference.Filter
