import PocketCalc.Keystroke
import PocketCalc.Screen.Frame

/-!
# The keypad panel

The buttons of the calculator in a grid of four columns, the last one pressed standing out. A button
shows the key of the keyboard that presses it where that is not its own label.
-/

namespace PocketCalc.Panel

open Screen (Style Row)

/-- **A button**: its label, the key that presses it, and what it tells the calculator. -/
structure Button where
  label : String
  key : String
  keystroke : Keystroke
  deriving DecidableEq, Repr

namespace Button

/-- A button labelled with its own key. -/
def plain (c : Char) (keystroke : Keystroke) : Button := ⟨c.toString, c.toString, keystroke⟩

def digit (c : Char) : Button := plain c (.digit c)

def operator (op : Operator) : Button := plain op.symbol (.operator op)

def text (b : Button) : List Char :=
  if b.key = b.label then (" " ++ b.label ++ " ").toList
  else (" " ++ b.label ++ " (" ++ b.key ++ ")").toList

def grid : List (List Button) :=
  [[⟨"C", "c", .clear⟩, ⟨"DEL", "bksp", .delete⟩, ⟨"+/-", "n", .toggleSign⟩, operator .divide],
    [digit '7', digit '8', digit '9', operator .multiply],
    [digit '4', digit '5', digit '6', operator .subtract],
    [digit '1', digit '2', digit '3', operator .add],
    [operator .percent, digit '0', plain '.' .decimalPoint]]

end Button

/-- **The keypad panel**: the last keystroke sent. -/
structure Keypad where
  lastPressed : Option Keystroke := none
  deriving DecidableEq, Repr

namespace Keypad

def press (_ : Keypad) (key : Keystroke) : Keypad := ⟨some key⟩

def style (p : Keypad) (b : Button) : Style :=
  if p.lastPressed = some b.keystroke then { fg := .black, bg := .cyan }
  else
    match b.keystroke with
    | .operator _ => { fg := .yellow }
    | _ => {}

/-- The first cell of a column: a quarter of the width and its gap for each column before it, to the
nearest cell. -/
def columnStart (width column : Nat) : Nat := (column * (width + 1) + 2) / 4

/-- The cell after a column: a quarter of what the three gaps leave. -/
def columnEnd (width column : Nat) : Nat := (column * (width + 1) + (width - 3) + 2) / 4

/-- A line of a row of buttons, the texts being given; each button has its style in its column. -/
def drawLine (p : Keypad) (width : Nat) (text : Button → List Char) (buttons : List Button) : Row :=
  buttons.zipIdx.foldl
    (fun line (b, column) =>
      let style := p.style b
      Screen.fit {} (columnStart width column) line
        ++ Screen.fit style (columnEnd width column - columnStart width column)
          (Screen.cells style (text b)))
    []

/-- **The panel as drawn.** A row of buttons has two lines, the texts on the first. -/
def draw (p : Keypad) (width height : Nat) : List Row :=
  Screen.frame {} " Keypad ".toList width height
    (Button.grid.flatMap fun buttons =>
      [p.drawLine (width - 2) Button.text buttons, p.drawLine (width - 2) (fun _ => []) buttons])

end Keypad

end PocketCalc.Panel
