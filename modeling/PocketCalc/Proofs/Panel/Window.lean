import PocketCalc.Panel.Logs

/-!
# The window of the log panel

What the log panel shows is a **block** of its snapshot: entries one after another, as many as there
are lines for, or all of them (`Logs.lines_eq_window`, `Logs.length_window`). This holds of every
position. A view is **placed** (`Logs.Placed`) if its position is that of an entry, and that of the
newest one where it follows; then the entry at its position is in the block.

**The law** (`Logs.placed_refresh`, `Logs.placed_scrollUp`, `Logs.Placed.scrollDown` and so on): a
view is placed from the beginning, and whatever is done to it leaves it placed.

**What it does not establish.** Which entries the snapshot has.
-/

namespace PocketCalc.Panel.Logs

open Screen (edge sided)

variable {p : Logs} {visible : Nat}

/-! ## The block -/

theorem firstShown_add_le (p : Logs) (visible : Nat) :
    p.firstShown visible + min visible p.lines.length ≤ p.lines.length := by
  rw [firstShown]
  omega

/-- **No line is left empty while there are entries for it.** -/
theorem length_window (p : Logs) (visible : Nat) :
    (p.window visible).length = min visible p.lines.length := by
  rw [window, List.length_take, List.length_drop, firstShown]
  omega

/-- **What is shown is a block of the snapshot.** -/
theorem lines_eq_window (p : Logs) (visible : Nat) :
    p.lines = p.lines.take (p.firstShown visible) ++ p.window visible ++
      p.lines.drop (p.firstShown visible + visible) := by
  rw [window, ← List.drop_drop, List.append_assoc, List.take_append_drop, List.take_append_drop]

/-- The entry on the first line. -/
theorem head?_window (p : Logs) (pos : 0 < visible) :
    (p.window visible).head? = p.lines[p.firstShown visible]? := by
  rw [window, List.head?_take, if_neg (Nat.ne_of_gt pos), List.head?_drop]

/-- **The drawing** has a line for each entry of the block, and an empty line only where the
snapshot has no more entries. -/
theorem draw_window (some : p.lines ≠ []) (width visible : Nat) :
    p.draw width (visible + 2) =
      edge {} '┌' '┐' p.title width ::
        ((p.window visible).map (fun e => sided {} width (entryRow (width - 2) e)) ++
          List.replicate (visible - p.lines.length) (sided {} width [])) ++
        [edge {} '└' '┘' [] width] := by
  have hlength : ((p.window visible).map (entryRow (width - 2))).length =
      min visible p.lines.length := by
    rw [List.length_map, length_window]
  have hempty : visible - min visible p.lines.length = visible - p.lines.length := by omega
  have hisEmpty : ¬ p.lines.isEmpty := by rwa [List.isEmpty_iff]
  rw [draw, if_neg hisEmpty, Nat.add_sub_cancel, Screen.frame, Screen.fitRows, hlength, hempty,
    List.take_of_length_le (by rw [hlength]; exact Nat.min_le_left _ _), List.map_append,
    List.map_map, List.map_replicate]
  rfl

/-! ## Positions -/

/-- The number of the entry at the position. -/
def position (p : Logs) : Nat := p.lines.length - 1 - p.offset

/-- **A view is placed**: at an entry, if it has any, and at the newest one if it follows. -/
structure Placed (p : Logs) : Prop where
  offset_le : p.offset ≤ p.maxOffset
  offset_of_following : p.following → p.offset = 0

/-- **The entry at the position is shown.** -/
theorem Placed.position_shown (h : p.Placed) (some : 0 < p.lines.length) (pos : 0 < visible) :
    p.firstShown visible ≤ p.position ∧
      p.position < p.firstShown visible + (p.window visible).length := by
  have hoffset := h.offset_le
  rw [length_window]
  unfold maxOffset at hoffset
  unfold position firstShown
  omega

/-- **A view that follows ends with the newest entry.** -/
theorem Placed.drop_of_following (h : p.Placed) (following : p.following) (visible : Nat) :
    p.lines.drop (p.firstShown visible + visible) = [] := by
  have hoffset := h.offset_of_following following
  rw [List.drop_eq_nil_iff, firstShown]
  omega

/-! ## What is done to a view -/

theorem placed_new : ({} : Logs).Placed := ⟨Nat.le_refl 0, fun _ => rfl⟩

theorem placed_refresh (p : Logs) (entries : List Log.Entry) : (p.refresh entries).Placed := by
  constructor
  · show (if p.following then 0 else min p.offset (entries.length - 1)) ≤ entries.length - 1
    split
    · exact Nat.zero_le _
    · exact Nat.min_le_right _ _
  · exact fun following => if_pos following

theorem placed_scrollToBottom (p : Logs) : p.scrollToBottom.Placed := ⟨Nat.zero_le _, fun _ => rfl⟩

theorem placed_scrollToTop (p : Logs) : p.scrollToTop.Placed := ⟨Nat.le_refl _, nofun⟩

theorem placed_scrollUp (p : Logs) (n : Nat) : (p.scrollUp n).Placed :=
  ⟨Nat.min_le_right _ _, nofun⟩

theorem Placed.scrollDown (h : p.Placed) (n : Nat) : (p.scrollDown n).Placed := by
  unfold Logs.scrollDown
  split
  next short =>
    refine ⟨Nat.le_trans (Nat.sub_le _ _) h.offset_le, fun following => ?_⟩
    rw [h.offset_of_following following] at short
    exact absurd short (Nat.not_lt_zero n)
  next => exact p.placed_scrollToBottom

/-- Scrolling leaves the snapshot as it is. -/
theorem lines_scrollDown (p : Logs) (n : Nat) : (p.scrollDown n).lines = p.lines := by
  unfold scrollDown
  split <;> rfl

end PocketCalc.Panel.Logs
