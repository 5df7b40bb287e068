import PocketCalc.Screen.Cell
import PocketCalc.Text.Cluster
import PocketCalc.Text.Width

/-!
# Glyphs

How a text becomes cells. Its **glyphs** are its clusters but for the controls, and each takes as
many cells as it is wide. A glyph without a width of its own is drawn on the cell before it; behind
a glyph of several cells there is no such cell, and it is lost.

**The law** (`length_rowOf_fitting_le`): the glyphs that fit into some room take no more cells than
that.
-/

namespace PocketCalc.Screen

open Text (Cluster clusters)

/-- A character that gives an order and is not drawn. -/
def isControl (c : Char) : Bool := c.toNat < 0x20 || (0x7f ≤ c.toNat && c.toNat ≤ 0x9f)

def glyphs (text : List Char) : List Cluster := (clusters text).filter fun g => !g.any isControl

/-- The glyphs that find room one after the other, up to the first that does not. -/
def fitting (room : Nat) : List Cluster → List Cluster
  | [] => []
  | g :: rest => if Text.width g ≤ room then g :: fitting (room - Text.width g) rest else []

/-- One glyph more at the front of a row, and of the marks that are still without a cell. -/
def placeBefore (style : Style) (g : Cluster) (after : List Char × Row) : List Char × Row :=
  match Text.width g with
  | 0 => (g ++ after.1, after.2)
  | 1 => ([], ⟨g ++ after.1, style⟩ :: after.2)
  | more + 2 => ([], ⟨g, style⟩ :: (List.replicate (more + 1) {} ++ after.2))

/-- **The cells of glyphs** in one style. Marks at the front are drawn on the first cell. -/
def rowOf (style : Style) (gs : List Cluster) : Row :=
  match gs.foldr (placeBefore style) ([], []) with
  | ([], []) => []
  | (marks, []) => [⟨marks, style⟩]
  | (marks, cell :: row) => ⟨marks ++ cell.symbol, style⟩ :: row

/-- The cells of a text in one style, however many. -/
def cells (style : Style) (text : List Char) : Row := rowOf style (glyphs text)

/-- The cells of a text that goes on until there is no room; a text without a width has none. -/
def span (style : Style) (room : Nat) (text : List Char) : Row :=
  if room = 0 || Text.width text = 0 then [] else rowOf style (fitting room (glyphs text))

/-- The cells of a line that has all the room to itself. What has no width is left out, and so is
what would not fit even alone. -/
def line (style : Style) (room : Nat) (text : List Char) : Row :=
  let gs := (glyphs text).filter fun g => 0 < Text.width g && Text.width g ≤ room
  rowOf style (fitting room gs)

/-! ## The law -/

theorem length_placeBefore (style : Style) (g : Cluster) (after : List Char × Row) :
    (placeBefore style g after).2.length = Text.width g + after.2.length := by
  unfold placeBefore
  split <;> rename_i h <;> simp only [h, List.length_cons, List.length_append,
    List.length_replicate] <;> omega

theorem length_foldr_fitting_le (style : Style) (room : Nat) (gs : List Cluster) :
    ((fitting room gs).foldr (placeBefore style) ([], [])).2.length ≤ room := by
  induction gs generalizing room with
  | nil => exact Nat.zero_le room
  | cons g rest ih =>
    unfold fitting
    split
    · rw [List.foldr_cons, length_placeBefore]
      have := ih (room - Text.width g)
      omega
    · exact Nat.zero_le room

theorem length_rowOf_fitting_le (style : Style) {room : Nat} (pos : 0 < room) (gs : List Cluster) :
    (rowOf style (fitting room gs)).length ≤ room := by
  have bound := length_foldr_fitting_le style room gs
  unfold rowOf
  split
  · exact Nat.zero_le room
  · exact pos
  · rename_i h
    rw [h] at bound
    exact bound

end PocketCalc.Screen
