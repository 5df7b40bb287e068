import PocketCalc.Decimal.Numeral
import PocketCalc.Log.Event
import PocketCalc.Operator
import PocketCalc.Text.Blank
import PocketCalc.Text.Quoted

/-!
# Settings

What the user may choose: how a failure is shown, what the log keeps, and how many keystrokes may
wait. A value of `Settings` may hold anything; `fault?` says what is wrong with it, the first fault
in the order of the fields.

**Why the marker is restricted.** The error marker stands in the buffer, where it is split like any
other text. A blank one would vanish, one with an operator symbol would fall apart, and one that is
a number would become an operand.

**The law.** The settings know symbols and levels by tables of their own, and these agree with the
calculator's symbols (`contains_reservedSymbols`) and with the log's levels (`mem_levelNames_iff`).
-/

namespace PocketCalc

namespace Settings

/-- How a failed evaluation is shown. -/
structure Display where
  /-- What the buffer shows in place of a result. -/
  errorMarker : String := "Error"
  /-- The reason follows the marker. -/
  detailedErrors : Bool := false
  deriving DecidableEq, Repr

/-- What the log keeps. -/
structure Logging where
  /-- The name of the least grave level kept. -/
  level : String := "info"
  capacity : UInt64 := 500
  deriving DecidableEq, Repr

/-- How keystrokes reach the calculator. -/
structure Queue where
  capacity : UInt64 := 64
  deriving DecidableEq, Repr

end Settings

/-- **Everything the user may choose.** -/
structure Settings where
  display : Settings.Display := {}
  logging : Settings.Logging := {}
  queue : Settings.Queue := {}
  deriving DecidableEq, Repr

namespace Settings

/-- The characters that a marker may not hold. -/
def reservedSymbols : List Char := ['+', '-', '*', '/', '%']

/-- The names that a level may have. -/
def levelNames : List String := ["error", "warn", "info", "debug", "trace"]

/-- **What is reserved is what the calculator cuts at**, and nothing else. -/
theorem contains_reservedSymbols : reservedSymbols.contains = Operator.isSymbol := rfl

/-- **The names are those of the log's levels**, and nothing else. -/
theorem mem_levelNames_iff {name : String} :
    name ∈ levelNames ↔ (Log.Level.ofName? name).isSome := by
  show name ∈ Log.Level.all.map Log.Level.name ↔ _
  simp only [Log.Level.ofName?, List.find?_isSome, List.mem_map, decide_eq_true_eq]

/-- **What is wrong with settings.** -/
inductive Fault where
  | emptyMarker
  | markerHoldsSymbol (marker : String)
  | markerIsNumber (marker : String)
  | unknownLevel (level : String)
  /-- The log keeps nothing. -/
  | noLogCapacity
  /-- No keystroke can wait. -/
  | noQueueCapacity
  deriving DecidableEq, Repr

def Fault.message : Fault → String
  | emptyMarker => "display.error_marker must not be empty"
  | markerHoldsSymbol marker =>
    "display.error_marker must not contain any of "
      ++ Text.bracketed (reservedSymbols.map Text.quoteChar)
      ++ ", got " ++ Text.quoteString marker.toList
  | markerIsNumber marker =>
    "display.error_marker must not be a number, got " ++ Text.quoteString marker.toList
  | unknownLevel level =>
    "logging.level must be one of "
      ++ Text.bracketed (levelNames.map fun name => Text.quoteString name.toList)
      ++ ", got " ++ Text.quoteString level.toList
  | noLogCapacity => "logging.capacity must be at least 1"
  | noQueueCapacity => "service.queue_capacity must be at least 1"

/-- The first fault of an error marker. -/
def markerFault? (marker : String) : Option Fault :=
  if Text.isBlankText marker.toList then some .emptyMarker
  else if marker.toList.any reservedSymbols.contains then some (.markerHoldsSymbol marker)
  else if (Numeral.read? (Text.trim marker.toList)).isSome then some (.markerIsNumber marker)
  else none

/-- **The first fault of settings**, if they have any. -/
def fault? (s : Settings) : Option Fault :=
  match markerFault? s.display.errorMarker with
  | some fault => some fault
  | none =>
    if s.logging.level ∉ levelNames then some (.unknownLevel s.logging.level)
    else if s.logging.capacity = 0 then some .noLogCapacity
    else if s.queue.capacity = 0 then some .noQueueCapacity
    else none

end Settings

end PocketCalc
