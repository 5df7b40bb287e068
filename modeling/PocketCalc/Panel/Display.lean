import PocketCalc.Calculator.Update
import PocketCalc.Screen.Frame

/-!
# The display panel

The last update received, in a frame: bold, at the right, and red where it is that of a failure.
-/

namespace PocketCalc.Panel

open Screen (Style Row)

/-- **The display panel**: what it shows. -/
structure Display where
  shown : Update := ⟨['0'], .idle⟩
  deriving DecidableEq, Repr

namespace Display

def update (_ : Display) (u : Update) : Display := ⟨u⟩

def style : Mode → Style
  | .idle => { bold := true }
  | .error => { fg := .red, bold := true }

def lines : List Char → List (List Char)
  | [] => []
  | c :: rest =>
    if c = '\n' then [] :: lines rest
    else
      match lines rest with
      | [] => [[c]]
      | line :: others => (c :: line) :: others

/-- **The panel as drawn.** -/
def draw (p : Display) (width height : Nat) : List Row :=
  let style := style p.shown.mode
  Screen.frame style [] width height
    ((lines p.shown.buffer).map fun line =>
      Screen.fitRight style (width - 2) (Screen.line style (width - 2) line))

end Display

end PocketCalc.Panel
