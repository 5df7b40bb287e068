import PocketCalc.Proofs.Panel.Watch

/-!
# How scrolling moves the window

The position may go up to the oldest entry, but the window stops as soon as the oldest entry is on
its first line. From there on the position moves within the window: it stands above the last line,
by so many lines as its **overhang** says (`Logs.overhang`).

Steps down add up (`Logs.scrollDown_scrollDown`). A step up moves the window as far as there are
entries (`Logs.firstShown_scrollUp`). A step down has to come back to the last line of the window
first, and moves it by what is left (`Logs.firstShown_scrollDown`).

**The law** (`Watch.scroll_moves`): a single step moves the window by one entry, but for a step down
from a position above its last line. So after a jump to the top, steps down are not seen at first,
as many as the window has lines behind its first (`Logs.firstShown_scrollDown_scrollToTop`).
-/

namespace PocketCalc.Panel

namespace Logs

variable {p : Logs} {visible : Nat}

/-- How many lines the position stands above the last line shown. -/
def overhang (p : Logs) (visible : Nat) : Nat := visible + p.offset - p.lines.length

/-- Where the position stands above the last line, the oldest entry is on the first. -/
theorem firstShown_of_overhang (h : 0 < p.overhang visible) : p.firstShown visible = 0 := by
  unfold overhang at h
  unfold firstShown
  omega

theorem Placed.overhang_lt (h : p.Placed) (pos : 0 < visible) (more : visible < p.lines.length) :
    p.overhang visible < visible := by
  have hoffset := h.offset_le
  unfold maxOffset at hoffset
  unfold overhang
  omega

/-! ## Steps -/

theorem offset_scrollDown (p : Logs) (n : Nat) : (p.scrollDown n).offset = p.offset - n := by
  unfold scrollDown
  split
  next => rfl
  next long => exact (Nat.sub_eq_zero_of_le (Nat.le_of_not_lt long)).symm

/-- **Steps down add up.** -/
theorem scrollDown_scrollDown (p : Logs) (m n : Nat) :
    (p.scrollDown m).scrollDown n = p.scrollDown (m + n) := by
  by_cases hm : m < p.offset
  · have first : p.scrollDown m = { p with offset := p.offset - m } := if_pos hm
    rw [first]
    unfold scrollDown
    by_cases hn : n < p.offset - m
    · rw [if_pos hn, if_pos (by omega), Nat.sub_sub]
    · rw [if_neg hn, if_neg (by omega)]
      rfl
  · have first : p.scrollDown m = p.scrollToBottom := if_neg hm
    have both : p.scrollDown (m + n) = p.scrollToBottom := if_neg (by omega)
    rw [first, both]
    exact if_neg (Nat.not_lt_zero n)

/-- **Up, the window moves as far as there are entries.** -/
theorem firstShown_scrollUp (p : Logs) (n : Nat) (pos : 0 < visible) :
    (p.scrollUp n).firstShown visible = p.firstShown visible - n := by
  show p.lines.length - (visible + min (p.offset + n) (p.lines.length - 1)) =
    p.lines.length - (visible + p.offset) - n
  omega

/-- **Down, the window moves by what is left** when the position is back on its last line, and as
far as there are entries. -/
theorem firstShown_scrollDown (p : Logs) (n : Nat) (fits : visible ≤ p.lines.length) :
    (p.scrollDown n).firstShown visible =
      min (p.lines.length - visible) (p.firstShown visible + (n - p.overhang visible)) := by
  unfold firstShown overhang
  rw [lines_scrollDown, offset_scrollDown]
  omega

theorem overhang_scrollDown (p : Logs) (n : Nat) (fits : visible ≤ p.lines.length) :
    (p.scrollDown n).overhang visible = p.overhang visible - n := by
  unfold overhang
  rw [lines_scrollDown, offset_scrollDown]
  omega

/-- **A jump to the top** leaves the position on the first line of the window. From there the steps
down are not seen until it is on the last. -/
theorem firstShown_scrollDown_scrollToTop (p : Logs) (n : Nat) (pos : 0 < visible)
    (more : visible < p.lines.length) :
    (p.scrollToTop.scrollDown n).firstShown visible =
      min (p.lines.length - visible) (n - (visible - 1)) := by
  have first : p.scrollToTop.firstShown visible =
      p.lines.length - (visible + (p.lines.length - 1)) := rfl
  have overhang : p.scrollToTop.overhang visible =
      visible + (p.lines.length - 1) - p.lines.length := rfl
  rw [firstShown_scrollDown p.scrollToTop n more.le, first, overhang]
  show min (p.lines.length - visible) _ = _
  omega

end Logs

namespace Watch

/-! ## Single steps -/

/-- **What a single step moves.** Of more entries than there are lines, a step up brings the next
older one to the first line, unless that has the oldest. A step down brings the next newer one
there, unless the last line has the newest, or the position stands above the last line. That happens
only with the oldest entry on the first line, and by less than the lines of the window; then the
window stays, and the position comes one line nearer to its last. However many steps down there are,
the window moves by those that are left when the position is back on its last line. -/
theorem scroll_moves {w : Watch} {visible : Nat} (reached : w.Reachable) (pos : 0 < visible)
    (more : visible < w.view.lines.length) :
    (∀ p : Logs, (p.window visible).head? = p.lines[p.firstShown visible]?) ∧
      (w.view.scrollUp 1).lines = w.view.lines ∧ (w.view.scrollDown 1).lines = w.view.lines ∧
      (w.view.firstShown visible ≠ 0 →
        (w.view.scrollUp 1).firstShown visible + 1 = w.view.firstShown visible) ∧
      (w.view.firstShown visible = 0 → (w.view.scrollUp 1).firstShown visible = 0) ∧
      (w.view.firstShown visible + visible ≠ w.view.lines.length →
        w.view.offset + visible ≤ w.view.lines.length →
        (w.view.scrollDown 1).firstShown visible = w.view.firstShown visible + 1) ∧
      (w.view.firstShown visible + visible = w.view.lines.length →
        (w.view.scrollDown 1).firstShown visible = w.view.firstShown visible) ∧
      (w.view.lines.length < w.view.offset + visible →
        w.view.firstShown visible = 0 ∧ (w.view.scrollDown 1).firstShown visible = 0 ∧
        w.view.overhang visible < visible ∧
        (w.view.scrollDown 1).overhang visible + 1 = w.view.overhang visible) ∧
      ∀ n, (w.view.scrollDown n).scrollDown 1 = w.view.scrollDown (n + 1) ∧
        (w.view.scrollDown n).firstShown visible = min (w.view.lines.length - visible)
          (w.view.firstShown visible + (n - w.view.overhang visible)) := by
  obtain ⟨capacity, kept⟩ := reached.kept
  have bound := w.view.firstShown_add_le visible
  have up := w.view.firstShown_scrollUp 1 pos
  have down := fun n => w.view.firstShown_scrollDown n more.le
  refine ⟨fun p => p.head?_window pos, rfl, w.view.lines_scrollDown 1, fun older => ?_,
    fun oldest => ?_, fun newer near => ?_, fun newest => ?_, fun far => ?_,
    fun n => ⟨w.view.scrollDown_scrollDown n 1, down n⟩⟩
  · omega
  · omega
  · have hoverhang : w.view.overhang visible = 0 := by
      unfold Logs.overhang
      omega
    rw [down 1, hoverhang]
    omega
  · rw [down 1]
    omega
  · have hoverhang : 0 < w.view.overhang visible := by
      unfold Logs.overhang
      omega
    have oldest := Logs.firstShown_of_overhang hoverhang
    refine ⟨oldest, ?_, kept.placed.overhang_lt pos more, ?_⟩
    · rw [down 1, oldest]
      omega
    · rw [w.view.overhang_scrollDown 1 more.le]
      omega

/-- One step above the newest of four entries, on two lines, a step goes either way. -/
theorem scroll_moves_between :
    let told : Input := .tell (.of .info "oracle" "entry")
    ∃ w, run { log := .new .trace 10 } [told, told, told, told, .refresh, .up 1] = .ok w ∧
      w.Reachable ∧ 0 < 2 ∧ 2 < w.view.lines.length ∧ w.view.firstShown 2 = 1 ∧
      (w.view.scrollUp 1).firstShown 2 = 0 ∧ (w.view.scrollDown 1).firstShown 2 = 2 := by
  intro told
  obtain ⟨w, hrun⟩ : ∃ w, run { log := .new .trace 10 }
      [told, told, told, told, .refresh, .up 1] = .ok w := ⟨_, rfl⟩
  have hw : w = _ := (Except.ok.inj hrun).symm
  have reached : w.Reachable := ⟨_, _, _, hrun⟩
  have hlength : w.view.lines.length = 4 := by rw [hw]; rfl
  have hoffset : w.view.offset = 1 := by rw [hw]; rfl
  have hfirst : w.view.firstShown 2 = 1 := by rw [hw]; rfl
  have more : 2 < w.view.lines.length := by omega
  obtain ⟨-, -, -, up, -, down, -⟩ := scroll_moves reached Nat.two_pos more
  have hup := up (by omega)
  have hdown := down (by omega) (by omega)
  exact ⟨w, hrun, reached, Nat.two_pos, more, hfirst, by omega, by omega⟩

/-- **A step that is not seen**: after a jump to the top of four entries, on two lines, a step down
does not bring the next newer entry to the first line, though the newest one is not shown. -/
theorem scrollDown_from_top_stays :
    let told : Input := .tell (.of .info "oracle" "entry")
    ∃ w, run { log := .new .trace 10 } [told, told, told, told, .refresh, .top] = .ok w ∧
      w.Reachable ∧ 0 < 2 ∧ 2 < w.view.lines.length ∧
      w.view.firstShown 2 + 2 ≠ w.view.lines.length ∧
      (w.view.scrollDown 1).firstShown 2 ≠ w.view.firstShown 2 + 1 := by
  intro told
  obtain ⟨w, hrun⟩ : ∃ w, run { log := .new .trace 10 }
      [told, told, told, told, .refresh, .top] = .ok w := ⟨_, rfl⟩
  have hw : w = _ := (Except.ok.inj hrun).symm
  refine ⟨w, hrun, ⟨_, _, _, hrun⟩, Nat.two_pos, ?_⟩
  rw [hw]
  decide

end Watch

end PocketCalc.Panel
