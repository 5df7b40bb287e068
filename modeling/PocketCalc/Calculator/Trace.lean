import PocketCalc.Calculator.Update

/-!
# What a calculator tells the log

Each keystroke tells the log what it met on the way and, last, that it was handled. The events of a
keystroke depend on the calculator before it; `Calculator.press` says what the calculator is after.

**The law** (`getLast?_events`): the last event of every keystroke is the one that shows the text
and the mode after it.
-/

namespace PocketCalc.Calculator

/-- The part of the log that a calculator writes to. -/
def target : String := "calcpad_core::controller"

/-- A digit key with another character on it. -/
def ignoredEvent (symbol : Char) : Log.Event :=
  .of .warn target "ignoring non-digit symbol" [("symbol", symbol.toString)]

/-- An evaluation that failed. -/
def failedEvent (op : Operator) (operands : List Binary32) (e : ReduceError) : Log.Event :=
  .of .warn target "evaluation failed"
    [("operator", op.symbol.toString), ("operands", Reduction.operandsText operands),
      ("error", e.message)]

/-- A keystroke that led to the calculator `after`. -/
def handledEvent (key : Keystroke) (after : Calculator) : Log.Event :=
  .of .trace target "handled keystroke"
    [("event", key.text), ("buffer", String.ofList after.buffer), ("state", after.mode.name)]

/-- What a reduction tells the log, whichever way it ends. -/
def reductionEvents (op : Operator) (operands : List Binary32) : List Log.Event :=
  match Reduction.reduce op operands with
  | .ok _ => Reduction.events op operands
  | .error e => [failedEvent op operands e]

/-- What evaluating tells the log: the runs that are no number, then the reduction. -/
def evaluateEvents (c : Calculator) (op : Operator) : List Log.Event :=
  if c.readout.isFailure then []
  else
    let split := c.splitBy op
    split.events ++ if split.operands.isEmpty then [] else reductionEvents op split.operands

/-- What a keystroke meets on the way. -/
def detailEvents (c : Calculator) : Keystroke → List Log.Event
  | .digit symbol => if symbol.isDigit then [] else [ignoredEvent symbol]
  | .operator op => c.evaluateEvents op
  | _ => []

/-- **What a keystroke tells the log.** -/
def events (c : Calculator) (key : Keystroke) : List Log.Event :=
  c.detailEvents key ++ [handledEvent key (c.press key)]

/-- What keystrokes tell the log, one after the other. -/
def eventsAll (c : Calculator) : List Keystroke → List Log.Event
  | [] => []
  | key :: rest => c.events key ++ (c.press key).eventsAll rest

theorem getLast?_events (c : Calculator) (key : Keystroke) :
    (c.events key).getLast? = some (handledEvent key (c.press key)) := by
  simp [events]

theorem eventsAll_append (c : Calculator) (a b : List Keystroke) :
    c.eventsAll (a ++ b) = c.eventsAll a ++ (c.pressAll a).eventsAll b := by
  induction a generalizing c with
  | nil => rfl
  | cons key rest ih =>
    simp only [List.cons_append, eventsAll, ih, List.append_assoc]
    rfl

end PocketCalc.Calculator
