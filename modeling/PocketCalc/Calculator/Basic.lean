import PocketCalc.Reduction
import PocketCalc.Settings.Basic
import PocketCalc.Split

/-!
# The calculator

A calculator is the text it shows and little else. Keys edit the text; an operator key splits the
whole of it, reduces all operands at once and shows the result in its place. The operands are read
from the text again at every operator, so what is shown is what is computed with.

**The readout** is a number or expression being typed, a result whose operator is still pending, or
the text of a failure. A result's operator is written into the text only when the next digit or
point follows it; any other edit forgets it.

**What it does not establish.** The order in which keys arrive: see `Service`.
-/

namespace PocketCalc

/-- **What is shown**, and what the next key does with it. -/
inductive Readout where
  /-- Typed text. -/
  | entry (text : List Char)
  /-- A result; the operator waits for the next operand. -/
  | result (text : List Char) (pending : Operator)
  /-- The marker of a failed evaluation, with its reason where that is wanted. -/
  | failure (text : List Char)
  deriving DecidableEq, Repr

namespace Readout

/-- The text of a calculator that has been told nothing. -/
def emptyText : List Char := ['0']

/-- The readout of a calculator that has been told nothing. -/
def fresh : Readout := .entry emptyText

instance : Inhabited Readout := ⟨fresh⟩

def text : Readout → List Char
  | entry t => t
  | result t _ => t
  | failure t => t

/-- The operator that waits for the next operand. -/
def pending? : Readout → Option Operator
  | result _ op => some op
  | _ => none

def isFailure : Readout → Bool
  | failure _ => true
  | _ => false

/-! ## Editing -/

/-- **Typing** a digit or the point. After a failure a new number begins. After a result the pending
operator comes first. Otherwise the character joins the text, but a second point in one run is
dropped, and a digit takes the place of a lone zero. -/
def type (symbol : Char) : Readout → Readout
  | failure _ => .entry (if symbol = '.' then emptyText ++ ['.'] else [symbol])
  | result t op => .entry (t ++ [op.symbol, symbol])
  | entry t =>
    if symbol = '.' ∧ '.' ∈ currentRun t then .entry t
    else if t = emptyText ∧ symbol ≠ '.' then .entry [symbol]
    else .entry (t ++ [symbol])

/-- **Deleting** the last character. Where nothing or a bare sign is left, the text is empty. -/
def delete : Readout → Readout
  | failure _ => fresh
  | r =>
    let rest := r.text.dropLast
    if rest = [] ∨ rest = ['-'] then fresh else .entry rest

/-- A text with its leading minus sign taken off, or put on. -/
def flipSign : List Char → List Char
  | '-' :: rest => rest
  | t => '-' :: t

/-- **Changing the sign** in front of the text. A failure has none, nor has the empty text. -/
def toggleSign : Readout → Readout
  | failure t => .failure t
  | r => if r.text = [] ∨ r.text = emptyText then r else .entry (flipSign r.text)

end Readout

/-- **What a calculator has counted.** -/
structure Tally where
  evaluations : Nat := 0
  failures : Nat := 0
  /-- Runs that were no number. -/
  discarded : Nat := 0
  deriving DecidableEq, Repr

/-- **A calculator.** -/
structure Calculator where
  display : Settings.Display := {}
  readout : Readout := .fresh
  tally : Tally := {}
  deriving DecidableEq, Repr

namespace Calculator

/-- A calculator that has been told nothing. -/
def fresh (display : Settings.Display) : Calculator := ⟨display, .fresh, {}⟩

def buffer (c : Calculator) : List Char := c.readout.text

/-- The text of a failure: the marker, and after it the reason where that is wanted. -/
def failureText (display : Settings.Display) (e : ReduceError) : List Char :=
  if display.detailedErrors then display.errorMarker.toList ++ ':' :: ' ' :: e.message.toList
  else display.errorMarker.toList

/-- The text with one more operator, split. -/
def splitBy (c : Calculator) (op : Operator) : Split := Split.ofBuffer (c.buffer ++ [op.symbol])

/-- The calculator after a reduction, and what it counts. -/
def conclude (c : Calculator) (op : Operator) :
    Except ReduceError Binary32 → Calculator
  | .ok x =>
    { c with
      readout := .result x.plainText op
      tally := { c.tally with evaluations := c.tally.evaluations + 1 } }
  | .error e =>
    { c with
      readout := .failure (failureText c.display e)
      tally := { c.tally with
        evaluations := c.tally.evaluations + 1
        failures := c.tally.failures + 1 } }

/-- **Evaluating**: everything that can be read from the text is reduced by the operator. A failure
is cleared instead, and so is a text without operands. -/
def evaluate (c : Calculator) (op : Operator) : Calculator :=
  if c.readout.isFailure then { c with readout := .fresh }
  else
    let split := c.splitBy op
    let counted := { c with
      tally := { c.tally with discarded := c.tally.discarded + split.discarded.length } }
    if split.operands.isEmpty then { counted with readout := .fresh }
    else counted.conclude op (Reduction.reduce op split.operands)

/-- **One keystroke.** A digit key with another character on it is ignored. -/
def press (c : Calculator) : Keystroke → Calculator
  | .digit symbol => if symbol.isDigit then { c with readout := c.readout.type symbol } else c
  | .decimalPoint => { c with readout := c.readout.type '.' }
  | .clear => { c with readout := .fresh }
  | .delete => { c with readout := c.readout.delete }
  | .toggleSign => { c with readout := c.readout.toggleSign }
  | .operator op => c.evaluate op

/-- Keystrokes in order. -/
def pressAll (c : Calculator) (keys : List Keystroke) : Calculator := keys.foldl press c

theorem pressAll_append (c : Calculator) (a b : List Keystroke) :
    c.pressAll (a ++ b) = (c.pressAll a).pressAll b := List.foldl_append

end Calculator

/-- **Calculators that keystrokes lead to** from a fresh one with the given display. -/
inductive Calculator.Reachable (display : Settings.Display) : Calculator → Prop where
  | fresh : Reachable display (Calculator.fresh display)
  | press {c : Calculator} (key : Keystroke) : Reachable display c → Reachable display (c.press key)

end PocketCalc
