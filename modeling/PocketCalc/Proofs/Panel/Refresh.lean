import PocketCalc.Proofs.Panel.Watch

/-!
# How a new snapshot moves the window

What a view shows are the entries of some numbers (`Watch.shown`), and between two snapshots the
numbers of what it shows can be compared, though the log has dropped entries in the meantime.

A position is counted from the newest entry, and a snapshot keeps the count, whether the view
follows or not: a view that follows is at the newest entry anyway (`Logs.Placed.offset_refresh`). So
with every entry that arrives the window goes on by one, except where it is held by the oldest entry
on its first line.

**The law** (`Watch.refresh_moves`): as long as all that was shown is still there, the window goes
on by as many entries as arrived, or by as many as the log holds below it if these are fewer; and a
view shows the newest entry after a snapshot if it was at the newest position before, following or
not.

**What it does not establish.** Where the window is when some of what it showed is gone.
-/

namespace PocketCalc.Panel

/-- **A snapshot keeps the count from the newest entry**, whether the view follows or not. -/
theorem Logs.Placed.offset_refresh {p : Logs} (h : p.Placed) (entries : List Log.Entry) :
    (p.refresh entries).offset = min p.offset (entries.length - 1) := by
  show (if p.following then 0 else min p.offset (entries.length - 1)) = _
  split
  next following => rw [h.offset_of_following following, Nat.zero_min]
  next => rfl

/-- The entries of consecutive numbers are a block. -/
theorem map_getElem?_range' {α : Type} {l : List α} {start n : Nat} (h : start + n ≤ l.length) :
    (List.range' start n).map (l[·]?) = ((l.drop start).take n).map some := by
  have hn : ((l.drop start).take n).length = n :=
    List.length_take_of_le (by rw [List.length_drop]; omega)
  refine List.ext_getElem (by rw [List.length_map, List.length_map, List.length_range', hn])
    fun i hi hi' => ?_
  have hlt : start + i < l.length := by
    rw [List.length_map, List.length_range'] at hi
    omega
  simp only [List.getElem_map, List.getElem_range', Nat.one_mul, List.getElem_take,
    List.getElem_drop, List.getElem?_eq_getElem hlt]

namespace Watch

/-! ## Numbers -/

/-- The number of the entry on the first line. -/
def firstNumber (w : Watch) (visible : Nat) : Nat :=
  w.seen - w.view.lines.length + w.view.firstShown visible

/-- **The numbers of the entries shown**, on so many lines. -/
def shown (w : Watch) (visible : Nat) : List Nat :=
  List.range' (w.firstNumber visible) (w.view.window visible).length

/-- The number of the oldest entry that the log still holds. -/
def oldest (w : Watch) : Nat := w.taken.length - w.log.size

variable {capacity visible : Nat} {w : Watch}

theorem Kept.capacity_pos (h : w.Kept capacity) : 0 < capacity := h.capacity_eq ▸ w.log.capacity_pos

theorem Kept.size_eq (h : w.Kept capacity) : w.log.size = min w.taken.length capacity := by
  rw [Log.Collector.size, h.entries, List.rtake, List.length_drop]
  omega

theorem Kept.entries_eq (h : w.Kept capacity) : w.log.entries = w.taken.drop w.oldest := by
  rw [oldest, h.size_eq, h.entries, List.rtake]
  congr 1
  omega

/-- The first line is as far from the end of what was seen as there are lines and offset, or as
there are entries. -/
theorem Kept.firstNumber_eq (h : w.Kept capacity) (visible : Nat) :
    w.firstNumber visible = w.seen - min (visible + w.view.offset) w.view.lines.length := by
  have hlines := h.length_lines
  rw [firstNumber, Logs.firstShown]
  omega

/-- **The window is a block of what was taken in.** -/
theorem Kept.window_eq (h : w.Kept capacity) (visible : Nat) :
    w.view.window visible =
      (w.taken.drop (w.firstNumber visible)).take (w.view.window visible).length := by
  have hseen := h.seen_le
  have hlines := h.length_lines
  have hfirst : w.seen - capacity + w.view.firstShown visible = w.firstNumber visible := by
    unfold firstNumber
    omega
  have hlength : min visible (w.seen - w.firstNumber visible) = (w.view.window visible).length := by
    have hfits := w.view.firstShown_add_le visible
    have hwindow := w.view.length_window visible
    unfold firstNumber Logs.firstShown at *
    omega
  rw [← hlength]
  show (w.view.lines.drop _).take visible = _
  rw [h.lines, List.rtake, List.length_take_of_le hseen, List.drop_drop, hfirst, List.drop_take,
    List.take_take]

theorem Kept.firstNumber_add_le (h : w.Kept capacity) (visible : Nat) :
    w.firstNumber visible + (w.view.window visible).length ≤ w.seen := by
  have hlines := h.length_lines
  have hfits := w.view.firstShown_add_le visible
  rw [w.view.length_window visible]
  unfold firstNumber
  omega

/-- **What is shown are the entries of the numbers.** -/
theorem Kept.entries_shown (h : w.Kept capacity) (visible : Nat) :
    (w.shown visible).map (w.taken[·]?) = (w.view.window visible).map some := by
  have hfits := h.firstNumber_add_le visible
  have hseen := h.seen_le
  rw [shown, map_getElem?_range' (by omega), ← h.window_eq]

/-! ## Telling and refreshing -/

theorem view_tellAll (w : Watch) (events : List Log.Event) : (w.tellAll events).view = w.view := by
  induction events generalizing w with
  | nil => rfl
  | cons event rest ih => exact ih (w.tell event)

theorem seen_tellAll (w : Watch) (events : List Log.Event) : (w.tellAll events).seen = w.seen := by
  induction events generalizing w with
  | nil => rfl
  | cons event rest ih => exact ih (w.tell event)

/-- **Numbers stay**: what was taken in is not changed by what comes. -/
theorem taken_tellAll (w : Watch) (events : List Log.Event) :
    w.taken <+: (w.tellAll events).taken := by
  induction events generalizing w with
  | nil => exact List.prefix_rfl
  | cons event rest ih =>
    refine List.IsPrefix.trans ?_ (ih (w.tell event))
    show w.taken <+: ite _ _ _
    split
    · exact List.prefix_append _ _
    · exact List.prefix_rfl

/-- **A snapshot in figures**: the numbers that decide what is shown after it. -/
theorem Kept.figures (h : w.Kept capacity) :
    w.refresh.seen = w.taken.length ∧ w.refresh.view.lines.length = min w.taken.length capacity ∧
      w.refresh.view.offset = min w.view.offset (min w.taken.length capacity - 1) ∧
      w.refresh.oldest = w.taken.length - min w.taken.length capacity := by
  refine ⟨rfl, h.size_eq, ?_, ?_⟩
  · rw [← h.size_eq]
    exact h.placed.offset_refresh w.log.entries
  · rw [← h.size_eq]
    rfl

/-! ## What a snapshot moves -/

theorem shown_ne_nil_iff : w.shown visible ≠ [] ↔ 0 < visible ∧ 0 < w.view.lines.length := by
  rw [shown, ne_eq, List.range'_eq_nil_iff, w.view.length_window visible]
  omega

/-- All that is shown is there if the first of it is. -/
theorem oldest_le_firstNumber {oldest : Nat} (some : w.shown visible ≠ [])
    (held : ∀ n ∈ w.shown visible, oldest ≤ n) : oldest ≤ w.firstNumber visible := by
  refine held _ ?_
  have hlength : (w.view.window visible).length ≠ 0 :=
    fun h => some (by rw [shown, h, List.range'_zero])
  rw [shown, List.mem_range'_1]
  omega

theorem Kept.lines_le_seen (h : w.Kept capacity) : w.view.lines.length ≤ w.seen :=
  h.length_lines ▸ Nat.min_le_left _ _

/-- **A new snapshot has as many entries at least**, and begins no earlier. -/
theorem Kept.lines_refresh (h : w.Kept capacity) :
    w.view.lines.length ≤ w.refresh.view.lines.length ∧
      w.seen - w.view.lines.length ≤ w.refresh.oldest ∧
      (w.taken.length - w.seen = 0 → w.refresh.view.lines.length = w.view.lines.length) := by
  obtain ⟨-, hlines, -, holdest⟩ := h.figures
  have hbefore := h.length_lines
  have hseen := h.seen_le
  omega

/-- An offset within the old snapshot is within the new one. -/
theorem Kept.offset_refresh (h : w.Kept capacity) (some : 0 < w.view.lines.length) :
    w.refresh.view.offset = w.view.offset := by
  have hplaced := h.placed.offset_le
  have hgrow := h.lines_refresh.1
  obtain ⟨-, hlines, hoffset, -⟩ := h.figures
  unfold Logs.maxOffset at hplaced
  rw [hoffset, ← hlines]
  omega

/-- The oldest entry held is as far from the newest as the snapshot is long. -/
theorem Kept.oldest_refresh (h : w.Kept capacity) :
    w.refresh.oldest + w.refresh.view.lines.length = w.taken.length := by
  obtain ⟨-, hlines, -, holdest⟩ := h.figures
  omega

/-- **The window goes on by the entries that arrived**, or by those below it if they are fewer. -/
theorem Kept.firstNumber_refresh (h : w.Kept capacity) (some : w.shown visible ≠ [])
    (held : ∀ n ∈ w.shown visible, w.refresh.oldest ≤ n) :
    w.refresh.firstNumber visible = w.firstNumber visible +
      min (w.taken.length - w.seen) (w.refresh.view.lines.length - (visible + w.view.offset)) := by
  obtain ⟨hgrow, hbegin, -⟩ := h.lines_refresh
  obtain ⟨-, hsome⟩ := shown_ne_nil_iff.mp some
  have hend := h.oldest_refresh
  have hfirst := oldest_le_firstNumber some held
  have hlines := h.lines_le_seen
  have htaken := h.seen_le
  have hnew := h.refresh.firstNumber_eq visible
  rw [h.offset_refresh hsome] at hnew
  rw [h.firstNumber_eq] at hfirst ⊢
  rw [hnew]
  show w.taken.length - _ = _
  -- either the window ends at its position, or the oldest entry holds it
  rcases Nat.le_total (visible + w.view.offset) w.view.lines.length with near | far
  · rw [Nat.min_eq_left near] at hfirst ⊢
    rw [Nat.min_eq_left (Nat.le_trans near hgrow)]
    omega
  · rw [Nat.min_eq_right far] at hfirst ⊢
    omega

/-- **What is shown stays** if nothing arrived, or there are no lines, or the lines are full and the
window is held by the oldest entry. -/
theorem Kept.shown_refresh_iff (h : w.Kept capacity)
    (held : ∀ n ∈ w.shown visible, w.refresh.oldest ≤ n) :
    w.refresh.shown visible = w.shown visible ↔
      w.taken.length - w.seen = 0 ∨ visible = 0 ∨ visible ≤ w.view.lines.length ∧
        w.refresh.view.lines.length ≤ visible + w.view.offset := by
  obtain ⟨hgrow, -, hsame⟩ := h.lines_refresh
  by_cases some : w.shown visible = []
  · have hnone := mt shown_ne_nil_iff.mpr (not_not_intro some)
    have hcapacity := h.capacity_pos
    obtain ⟨-, hlines, -⟩ := h.figures
    have hbefore := h.length_lines
    rw [some, ← not_iff_not, ← ne_eq, shown_ne_nil_iff]
    omega
  · have hmoved := h.firstNumber_refresh some held
    have hfirst := oldest_le_firstNumber some held
    have hend := h.oldest_refresh
    obtain ⟨pos, hsome⟩ := shown_ne_nil_iff.mp some
    rw [shown, shown, List.range'_inj, hmoved, w.view.length_window, w.refresh.view.length_window,
      Nat.add_eq_left]
    rw [h.firstNumber_eq] at hfirst
    -- more lines than entries: what arrived is shown below them
    rcases Nat.lt_or_ge w.view.lines.length visible with long | full
    · have hlines := h.lines_le_seen
      rw [Nat.min_eq_right (by omega)] at hfirst
      omega
    · omega

/-- **The newest entry is shown** after a snapshot if the view was at the newest position, or if all
entries have a line. -/
theorem Kept.newest_shown_iff (h : w.Kept capacity) (some : w.refresh.shown visible ≠ []) :
    w.taken.length - 1 ∈ w.refresh.shown visible ↔
      w.view.offset = 0 ∨ w.refresh.view.lines.length ≤ visible := by
  obtain ⟨hseen, hlines, hoffset, -⟩ := h.figures
  have hlength := w.refresh.view.length_window visible
  obtain ⟨pos, hsome⟩ := shown_ne_nil_iff.mp some
  rw [shown, List.mem_range'_1, hlength]
  unfold firstNumber Logs.firstShown
  omega

/-- **What a new snapshot moves**, after any events. As long as the log still holds all that was
shown, the same entries are shown after it exactly if no entry has arrived since the last one, or
there are no lines, or the lines were full and all that the log holds now is within the lines and
the offset. In general the window has gone on by as many entries as arrived, or by those that the
log holds below it. Whether the view follows makes no difference: it stands at the newest position
then, and from there, or if all entries have a line, the newest one is shown after the snapshot. -/
theorem refresh_moves (reached : w.Reachable) (events : List Log.Event) (visible : Nat) :
    let after := (w.tellAll events).refresh
    let arrived := after.taken.length - w.seen
    w.taken <+: after.taken ∧ after.log.entries = after.taken.drop after.oldest ∧
      (w.shown visible).map (w.taken[·]?) = (w.view.window visible).map some ∧
      (after.shown visible).map (after.taken[·]?) = (after.view.window visible).map some ∧
      ((∀ n ∈ w.shown visible, after.oldest ≤ n) →
        (after.shown visible = w.shown visible ↔
          arrived = 0 ∨ visible = 0 ∨ visible ≤ w.view.lines.length ∧
            after.view.lines.length ≤ visible + w.view.offset) ∧
        (w.shown visible ≠ [] →
          after.firstNumber visible = w.firstNumber visible +
            min arrived (after.view.lines.length - (visible + w.view.offset)))) ∧
      (w.view.following → w.view.offset = 0) ∧
      (after.shown visible ≠ [] →
        (after.taken.length - 1 ∈ after.shown visible ↔
          w.view.offset = 0 ∨ after.view.lines.length ≤ visible)) := by
  intro after arrived
  obtain ⟨capacity, kept⟩ := reached.kept
  have told := kept.tellAll events
  have hview := w.view_tellAll events
  have hseen := w.seen_tellAll events
  have hshown : (w.tellAll events).shown visible = w.shown visible := by
    rw [shown, shown, firstNumber, firstNumber, hview, hseen]
  have hfirst : (w.tellAll events).firstNumber visible = w.firstNumber visible := by
    rw [firstNumber, firstNumber, hview, hseen]
  refine ⟨w.taken_tellAll events, told.refresh.entries_eq, kept.entries_shown visible,
    told.refresh.entries_shown visible, fun held => ⟨?_, fun some => ?_⟩,
    kept.placed.offset_of_following, fun some => ?_⟩
  · have stays := told.shown_refresh_iff (hshown.symm ▸ held)
    rwa [hshown, hview, hseen] at stays
  · have moved := told.firstNumber_refresh (hshown.symm ▸ some) (hshown.symm ▸ held)
    rwa [hfirst, hview, hseen] at moved
  · have newest := told.newest_shown_iff some
    rwa [hview] at newest

/-- At the top of four entries, on three lines: two more entries leave the window where it is, and a
third moves it by one. -/
theorem refresh_moves_at_top :
    let event : Log.Event := .of .info "oracle" "entry"
    let old : Watch := (tellAll { log := .new .trace 10 } [event, event, event, event]).refresh
    let w : Watch := { old with view := old.view.scrollToTop }
    w.Reachable ∧ w.shown 3 = [0, 1, 2] ∧
      (∀ n ∈ w.shown 3, (w.tellAll [event, event]).refresh.oldest ≤ n) ∧
      (w.tellAll [event, event]).refresh.shown 3 = w.shown 3 ∧
      (∀ n ∈ w.shown 3, (w.tellAll [event, event, event]).refresh.oldest ≤ n) ∧
      (w.tellAll [event, event, event]).refresh.firstNumber 3 = w.firstNumber 3 + 1 := by
  intro event old w
  have reached : w.Reachable :=
    ⟨.trace, 10, [.tell event, .tell event, .tell event, .tell event, .refresh, .top], rfl⟩
  have hshown : w.shown 3 = [0, 1, 2] := by decide
  have heldTwo : ∀ n ∈ w.shown 3, (w.tellAll [event, event]).refresh.oldest ≤ n := by decide
  have heldThree : ∀ n ∈ w.shown 3, (w.tellAll [event, event, event]).refresh.oldest ≤ n := by
    decide
  have some : w.shown 3 ≠ [] := by rw [hshown]; decide
  have held : 3 ≤ w.view.lines.length ∧
      (w.tellAll [event, event]).refresh.view.lines.length ≤ 3 + w.view.offset := by decide
  have below : min ((w.tellAll [event, event, event]).refresh.taken.length - w.seen)
      ((w.tellAll [event, event, event]).refresh.view.lines.length - (3 + w.view.offset)) = 1 := by
    decide
  obtain ⟨-, -, -, -, two, -⟩ := refresh_moves reached [event, event] 3
  obtain ⟨-, -, -, -, three, -⟩ := refresh_moves reached [event, event, event] 3
  have stays := (two heldTwo).1.mpr (.inr (.inr held))
  have moved := (three heldThree).2 some
  rw [below] at moved
  exact ⟨reached, hshown, heldTwo, stays, heldThree, moved⟩

/-- **A view that does not follow goes along**: one step above the newest of three entries, its one
line shows the second. A fourth entry comes, the second is still there, and the line shows the
third. -/
theorem refresh_leaves_shown :
    let event (text : String) : Log.Event := .of .info "oracle" text
    let old : Watch :=
      (tellAll { log := .new .trace 10 } [event "one", event "two", event "three"]).refresh
    let w : Watch := { old with view := old.view.scrollUp 1 }
    let after := (w.tellAll [event "four"]).refresh
    w.Reachable ∧ w.view.following = false ∧ (∀ n ∈ w.shown 1, after.oldest ≤ n) ∧
      w.shown 1 = [1] ∧ w.view.window 1 = [⟨.info, "oracle", "two", []⟩] ∧
      after.shown 1 = [2] ∧ after.view.window 1 = [⟨.info, "oracle", "three", []⟩] := by
  intro event old w after
  have reached : w.Reachable :=
    ⟨.trace, 10, [.tell (event "one"), .tell (event "two"), .tell (event "three"), .refresh, .up 1],
      rfl⟩
  have held : ∀ n ∈ w.shown 1, after.oldest ≤ n := by decide
  have hshown : w.shown 1 = [1] := by decide
  have hafter : after.shown 1 = [2] := by decide
  have hbefore : w.view.window 1 = [⟨.info, "oracle", "two", []⟩] := by decide
  have hnow : after.view.window 1 = [⟨.info, "oracle", "three", []⟩] := by decide
  exact ⟨reached, rfl, held, hshown, hbefore, hafter, hnow⟩

end Watch

end PocketCalc.Panel
