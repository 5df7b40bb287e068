import PocketCalc.Operator
import PocketCalc.Text.Quoted

/-!
# Keystrokes

What the calculator is told: one press of one of its keys. Digits, the point and the operators have
characters of their own; clearing, deleting and the change of sign do not.
-/

namespace PocketCalc

/-- **One press of a calculator key.** A digit key carries the character it was pressed with, which
the calculator checks. -/
inductive Keystroke where
  | digit (symbol : Char)
  | decimalPoint
  | clear
  | delete
  | toggleSign
  | operator (op : Operator)
  deriving DecidableEq, Repr, Inhabited

namespace Keystroke

def ofSymbol? (c : Char) : Option Keystroke :=
  if c.isDigit then some (.digit c)
  else if c = '.' then some .decimalPoint
  else (Operator.ofSymbol? c).map .operator

/-- The keystroke of a character in typed notation: the keypad characters, and a capital letter for
each key that has none. -/
def ofNotation? (c : Char) : Option Keystroke :=
  if c = 'C' then some .clear
  else if c = 'D' then some .delete
  else if c = 'N' then some .toggleSign
  else ofSymbol? c

/-- The keystroke as log fields and action texts name it. -/
def text : Keystroke → String
  | digit c => "Digit(" ++ Text.quoteChar c ++ ")"
  | decimalPoint => "DecimalPoint"
  | clear => "Clear"
  | delete => "Delete"
  | toggleSign => "ToggleSign"
  | operator op => "Operator(" ++ op.name ++ ")"

end Keystroke

end PocketCalc
