import PocketCalc.Log.Collector
import PocketCalc.Screen.Frame

/-!
# The log panel

A view of a snapshot of the log. The view **follows** the newest entry, or stands some entries above
it: its position is counted from the newest entry backwards.

**The window.** Of a height of `visible` lines the view shows as many entries, ending at its
position; near the oldest entry it shows the first ones instead, so that no line is left empty while
there are entries for it.

**What it does not establish.** Which entries the log keeps: see `Log.Collector`.
-/

namespace PocketCalc.Panel

open Screen (Style Row)

structure Logs where
  /-- The snapshot, oldest entry first. -/
  lines : List Log.Entry := []
  /-- Entries between the position and the newest one. -/
  offset : Nat := 0
  /-- The view goes along with the newest entry. -/
  following : Bool := true
  deriving Repr

namespace Logs

/-- The position of the oldest entry. -/
def maxOffset (p : Logs) : Nat := p.lines.length - 1

def refresh (p : Logs) (entries : List Log.Entry) : Logs :=
  { p with
    lines := entries
    offset := if p.following then 0 else min p.offset (entries.length - 1) }

/-- Goes to the newest entry, and follows it from then on. -/
def scrollToBottom (p : Logs) : Logs := { p with offset := 0, following := true }

def scrollToTop (p : Logs) : Logs := { p with offset := p.maxOffset, following := false }

/-- Goes `n` entries towards the newest. -/
def scrollDown (p : Logs) (n : Nat) : Logs :=
  if n < p.offset then { p with offset := p.offset - n } else p.scrollToBottom

/-- Goes `n` entries towards the oldest. -/
def scrollUp (p : Logs) (n : Nat) : Logs :=
  { p with offset := min (p.offset + n) p.maxOffset, following := false }

/-- Goes `n` entries towards the oldest, if the position that this asks for is a word. -/
def tryScrollUp (p : Logs) (n : Nat) : Except LimitError Logs :=
  if p.offset + n < wordEnd then .ok (p.scrollUp n) else .error .sum

/-- The number of the first entry shown. -/
def firstShown (p : Logs) (visible : Nat) : Nat := p.lines.length - (visible + p.offset)

/-- **The entries shown** on so many lines. -/
def window (p : Logs) (visible : Nat) : List Log.Entry :=
  (p.lines.drop (p.firstShown visible)).take visible

/-! ## Drawing -/

def levelStyle : Log.Level → Style
  | .error => { fg := .red }
  | .warn => { fg := .yellow }
  | .info => { fg := .green }
  | .debug => { fg := .blue }
  | .trace => { fg := .darkGray }

/-- The column of the clock, masked. -/
def clock : List Char := "######## ".toList

/-- A level's label at the right of its column. -/
def levelColumn (l : Log.Level) : List Char :=
  List.replicate (5 - l.label.length) ' ' ++ l.label.toList ++ [' ']

/-- The line of an entry, of a width. -/
def entryRow (width : Nat) (e : Log.Entry) : Row :=
  let columns := Screen.cells { fg := .darkGray } clock
    ++ Screen.cells (levelStyle e.level) (levelColumn e.level)
  columns ++ Screen.span {} (width - columns.length) e.text.toList

def title (p : Logs) : List Char :=
  let ending := if p.following then " [follow] " else " "
  (" Logs (" ++ toString p.lines.length ++ ")" ++ ending).toList

/-- **The panel as drawn.** -/
def draw (p : Logs) (width height : Nat) : List Row :=
  if p.lines.isEmpty then
    let style : Style := { fg := .darkGray }
    Screen.frame style " Logs (0) ".toList width height
      [Screen.cells style "  (no log entries yet)".toList]
  else Screen.frame {} p.title width height ((p.window (height - 2)).map (entryRow (width - 2)))

end Logs

end PocketCalc.Panel
