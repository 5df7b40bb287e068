import PocketCalc.Screen.Glyph

/-!
# Frames

A frame is a box of lines around rows, with a title on its upper edge. It has exactly the size asked
for: rows that do not fit are cut, and missing ones are empty.

**The law** (`length_frame`): a frame has as many rows as asked for.
-/

namespace PocketCalc.Screen

/-- An edge: a corner, a line with a text on it, and the other corner. -/
def edge (style : Style) (left right : Char) (title : List Char) (width : Nat) : Row :=
  let inner := width - 2
  let line := cells style (title.take inner) ++
    List.replicate (inner - (title.take inner).length) ⟨['─'], style⟩
  (⟨[left], style⟩ :: (line ++ [⟨[right], style⟩])).take width

def sided (style : Style) (width : Nat) (row : Row) : Row :=
  (⟨['│'], style⟩ :: (fit style (width - 2) row ++ [⟨['│'], style⟩])).take width

/-- A list of rows cut at a height, or filled up to it with empty ones. -/
def fitRows (height : Nat) (rows : List Row) : List Row :=
  rows.take height ++ List.replicate (height - rows.length) []

/-- **A frame** of a size around rows. -/
def frame (style : Style) (title : List Char) (width height : Nat) (rows : List Row) : List Row :=
  match height with
  | 0 => []
  | 1 => [edge style '┌' '┐' title width]
  | inner + 2 =>
    edge style '┌' '┐' title width :: (fitRows inner rows).map (sided style width)
      ++ [edge style '└' '┘' [] width]

theorem length_fitRows (height : Nat) (rows : List Row) :
    (fitRows height rows).length = height := by
  simp only [fitRows, List.length_append, List.length_take, List.length_replicate]
  omega

theorem length_frame (style : Style) (title : List Char) (width height : Nat) (rows : List Row) :
    (frame style title width height rows).length = height := by
  match height with
  | 0 => rfl
  | 1 => rfl
  | inner + 2 => simp [frame, length_fitRows]

end PocketCalc.Screen
