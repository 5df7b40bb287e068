import PocketCalc.Calculator.Basic

/-!
# What a calculator shows to others

An update is the text of a calculator and whether it is that of a failure: all that a display
needs.
-/

namespace PocketCalc

/-- **Whether a failure is shown.** -/
inductive Mode where
  | idle
  | error
  deriving DecidableEq, Repr, Inhabited

def Mode.name : Mode → String
  | idle => "Idle"
  | error => "Error"

def Calculator.mode (c : Calculator) : Mode := if c.readout.isFailure then .error else .idle

/-- **A text to show**, and its mode. -/
structure Update where
  buffer : List Char
  mode : Mode
  deriving DecidableEq, Repr

def Update.of (c : Calculator) : Update := ⟨c.buffer, c.mode⟩

end PocketCalc
