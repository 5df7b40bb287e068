import PocketCalc.Decimal.Layout
import PocketCalc.Keystroke
import PocketCalc.Log.Event

/-!
# Reduction

An operator reduces a whole list of operands to one number, from left to right, each step rounded
to single precision. The percent key has no rule.

**Order of refusals.** An operator without a rule is refused before the operands are looked at, a
rule's own refusal comes before the check of its result, and a division meets a zero before it
divides by it, whatever the quotient has become by then.

**What it does not establish.** That a list has operands at all: a sum and a product of none are
the numbers they start from.
-/

namespace PocketCalc

/-- **Why operands were not reduced.** -/
inductive ReduceError where
  /-- A divisor is one of the zeros. -/
  | divisionByZero
  /-- The character is no operator, or one without a rule. -/
  | unsupportedOperator (symbol : Char)
  /-- The operator needs a first operand. -/
  | emptyOperands (op : Operator)
  /-- The result is infinite or undefined. -/
  | outOfRange
  deriving DecidableEq, Repr

def ReduceError.message : ReduceError → String
  | divisionByZero => "division by zero"
  | unsupportedOperator c => "unsupported operator " ++ Text.quoteChar c
  | emptyOperands op => "no operands to reduce with " ++ op.symbol.toString
  | outOfRange => "result out of range"

namespace Reduction

/-- The part of the log that reduction writes to. -/
def target : String := "calcpad_core::reducer"

/-! ## The rules -/

/-- The sum, from negative zero: it leaves every first term as it is. -/
def sum (operands : List Binary32) : Except ReduceError Binary32 :=
  .ok (operands.foldl (· + ·) (Binary32.zero true))

/-- The first operand less all others. -/
def difference : List Binary32 → Except ReduceError Binary32
  | [] => .error (.emptyOperands .subtract)
  | first :: rest => .ok (rest.foldl (· - ·) first)

/-- The product, from one. -/
def product (operands : List Binary32) : Except ReduceError Binary32 :=
  .ok (operands.foldl (· * ·) Binary32.one)

/-- One step of a division; a zero is refused. -/
def divideBy (quotient divisor : Binary32) : Except ReduceError Binary32 :=
  if divisor.isZero then .error .divisionByZero else .ok (quotient / divisor)

/-- The first operand divided by each of the others. -/
def quotient : List Binary32 → Except ReduceError Binary32
  | [] => .error (.emptyOperands .divide)
  | first :: rest => rest.foldlM divideBy first

/-- The rule of an operator, if it has one. -/
def rule : Operator → Option (List Binary32 → Except ReduceError Binary32)
  | .add => some sum
  | .subtract => some difference
  | .multiply => some product
  | .divide => some quotient
  | .percent => none

/-! ## Reducing -/

/-- A result that can be shown. -/
def inRange (x : Binary32) : Except ReduceError Binary32 :=
  if x.isFinite then .ok x else .error .outOfRange

/-- **The reduction of operands by an operator.** -/
def reduce (op : Operator) (operands : List Binary32) : Except ReduceError Binary32 :=
  match rule op with
  | none => .error (.unsupportedOperator op.symbol)
  | some apply => apply operands >>= inRange

/-- The reduction by the operator of a character. -/
def reduceSymbol (symbol : Char) (operands : List Binary32) : Except ReduceError Binary32 :=
  match Operator.ofSymbol? symbol with
  | none => .error (.unsupportedOperator symbol)
  | some op => reduce op operands

def operandsText (operands : List Binary32) : String :=
  Text.bracketed (operands.map fun x => String.ofList x.preciseText)

/-- What reducing tells the log: a result, if there is one. -/
def events (op : Operator) (operands : List Binary32) : List Log.Event :=
  match reduce op operands with
  | .ok x =>
    [.of .debug target "reduced operands"
      [("operator", op.symbol.toString), ("operands", operandsText operands),
        ("result", String.ofList x.widenedText)]]
  | .error _ => []

end Reduction

end PocketCalc
