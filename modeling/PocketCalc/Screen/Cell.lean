/-!
# Cells and rows

A screen is a list of rows and a row a list of cells: a symbol with a style. What is wider than one
cell stands in the first of its cells, and the others are empty and without a style. Pictures are
put together from smaller ones by joining rows and lists of rows, so nothing is ever drawn over.

**The law** (`length_fit`): a row fitted to a width has that width.
-/

namespace PocketCalc.Screen

inductive Color where
  | reset
  | black
  | red
  | green
  | yellow
  | blue
  | cyan
  | darkGray
  deriving DecidableEq, Repr, Inhabited

def Color.name : Color → String
  | reset => "Reset"
  | black => "Black"
  | red => "Red"
  | green => "Green"
  | yellow => "Yellow"
  | blue => "Blue"
  | cyan => "Cyan"
  | darkGray => "DarkGray"

/-- **How a cell looks.** -/
structure Style where
  fg : Color := .reset
  bg : Color := .reset
  bold : Bool := false
  deriving DecidableEq, Repr, Inhabited

def Style.modifier (s : Style) : String := if s.bold then "BOLD" else "NONE"

structure Cell where
  /-- The characters that are drawn on one another. -/
  symbol : List Char := [' ']
  style : Style := {}
  deriving DecidableEq, Repr, Inhabited

abbrev Row := List Cell

/-- Empty cells in one style. -/
def blank (style : Style) (width : Nat) : Row := List.replicate width ⟨[' '], style⟩

/-- A row cut at a width, or filled up to it with empty cells. -/
def fit (style : Style) (width : Nat) (row : Row) : Row :=
  row.take width ++ blank style (width - row.length)

/-- A row cut at a width, or moved to its right end. -/
def fitRight (style : Style) (width : Nat) (row : Row) : Row :=
  blank style (width - row.length) ++ row.take width

theorem length_fit (style : Style) (width : Nat) (row : Row) :
    (fit style width row).length = width := by
  simp only [fit, blank, List.length_append, List.length_take, List.length_replicate]
  omega

theorem length_fitRight (style : Style) (width : Nat) (row : Row) :
    (fitRight style width row).length = width := by
  simp only [fitRight, blank, List.length_append, List.length_take, List.length_replicate]
  omega

/-! ## What a screen shows -/

def rowText (row : Row) : String := String.ofList (row.flatMap Cell.symbol)

/-- **A run of cells of one style** in a row. -/
structure Run where
  start : Nat
  length : Nat
  style : Style
  deriving DecidableEq, Repr

/-- The runs of a row from a column on, each as long as it can be. -/
def runsFrom (column : Nat) : Row → List Run
  | [] => []
  | cell :: rest =>
    match runsFrom (column + 1) rest with
    | [] => [⟨column, 1, cell.style⟩]
    | run :: runs =>
      if run.style = cell.style then ⟨column, run.length + 1, run.style⟩ :: runs
      else ⟨column, 1, cell.style⟩ :: run :: runs

/-- The runs of a row that look like anything. -/
def styledRuns (row : Row) : List Run := (runsFrom 0 row).filter (·.style ≠ {})

end PocketCalc.Screen
