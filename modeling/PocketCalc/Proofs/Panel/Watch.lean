import PocketCalc.Proofs.Log.Newest
import PocketCalc.Proofs.Panel.Window

/-!
# Watching a log

A **watch** is a log and a view of it, with what the log has taken in and how much of that there was
at the view's last snapshot. What the log takes in has a number, the oldest entry number zero, and
keeps it when older entries go.

What can happen to a watch is an `Input`: the log is told something, the view takes a new snapshot,
or it is scrolled. A step up whose position would be no word is refused (`Watch.step`).

**The law** (`Watch.Kept.step`, `Watch.Kept.run`): every input keeps the view placed, and its
snapshot is what the log held of the entries seen. Where the log fits into memory, no step of less
than half the words is refused (`Watch.Kept.exists_step`).
-/

namespace PocketCalc

/-! ## Limits -/

namespace Log.Collector

/-- A collector that has room for its entries keeps so few of them. -/
theorem allocate_eq_ok {threshold : Level} {capacity : Nat} {log : Collector}
    (h : allocate threshold capacity = .ok log) :
    log = new threshold capacity ∧ capacity * entrySize ≤ maxBytes := by
  unfold allocate room at h
  split at h
  next fits => cases h; exact ⟨rfl, fits⟩
  next => cases h

theorem capacity_record (c : Collector) (event : Event) :
    (c.record event).capacity = c.capacity := by
  unfold record
  split <;> rfl

end Log.Collector

namespace Panel

theorem Logs.tryScrollUp_eq_ok_iff {p q : Logs} {n : Nat} :
    p.tryScrollUp n = .ok q ↔ p.offset + n < wordEnd ∧ p.scrollUp n = q := by
  unfold tryScrollUp
  split
  next word => rw [Except.ok.injEq, and_iff_right word]
  next noWord => exact iff_of_false nofun fun h => noWord h.1

/-- **A log and a view of it.** -/
structure Watch where
  log : Log.Collector
  view : Logs := {}
  /-- What the log has taken in, oldest entry first. -/
  taken : List Log.Entry := []
  /-- How much of it there was at the last snapshot. -/
  seen : Nat := 0
  deriving Repr

namespace Watch

/-- **What can happen to a watch.** -/
inductive Input where
  | tell (event : Log.Event)
  | refresh
  | up (n : Nat)
  | down (n : Nat)
  | top
  | bottom
  deriving DecidableEq, Repr

/-! ## Steps -/

/-- The log is told an event, and takes it in if it matters enough. -/
def tell (w : Watch) (event : Log.Event) : Watch :=
  { w with
    log := w.log.record event
    taken := if w.log.threshold.covers event.level then w.taken ++ [.ofEvent event] else w.taken }

def tellAll (w : Watch) (events : List Log.Event) : Watch := events.foldl tell w

/-- The view takes a new snapshot of the log. -/
def refresh (w : Watch) : Watch :=
  { w with view := w.view.refresh w.log.entries, seen := w.taken.length }

/-- **One step.** -/
def step (w : Watch) : Input → Except LimitError Watch
  | .tell event => .ok (w.tell event)
  | .refresh => .ok w.refresh
  | .up n => (w.view.tryScrollUp n).map fun view => { w with view }
  | .down n => .ok { w with view := w.view.scrollDown n }
  | .top => .ok { w with view := w.view.scrollToTop }
  | .bottom => .ok { w with view := w.view.scrollToBottom }

def run (w : Watch) (inputs : List Input) : Except LimitError Watch := inputs.foldlM step w

/-- **A watch that can come about**, over a log and a view that were new. -/
def Reachable (w : Watch) : Prop :=
  ∃ threshold capacity inputs, run { log := .new threshold capacity } inputs = .ok w

/-! ## What every step keeps -/

/-- **A watch is kept**: the view is placed, and the log and the snapshot hold the newest entries,
of all and of those seen. -/
structure Kept (capacity : Nat) (w : Watch) : Prop where
  placed : w.view.Placed
  capacity_eq : w.log.capacity = capacity
  seen_le : w.seen ≤ w.taken.length
  entries : w.log.entries = w.taken.rtake capacity
  lines : w.view.lines = (w.taken.take w.seen).rtake capacity

variable {capacity : Nat} {w after : Watch}

theorem kept_new (threshold : Log.Level) (capacity : Nat) :
    Kept (max capacity 1) { log := .new threshold capacity } where
  placed := Logs.placed_new
  capacity_eq := rfl
  seen_le := Nat.le_refl 0
  entries := (List.rtake_nil _).symm
  lines := (List.rtake_nil _).symm

theorem Kept.tell (h : w.Kept capacity) (event : Log.Event) : (w.tell event).Kept capacity := by
  obtain ⟨placed, hcapacity, seen, entries, lines⟩ := h
  refine ⟨placed, (w.log.capacity_record event).trans hcapacity, ?_, ?_, ?_⟩
  · show w.seen ≤ (ite _ _ _ : List Log.Entry).length
    split
    · rw [List.length_append]
      exact Nat.le_add_right_of_le seen
    · exact seen
  · show (w.log.record event).entries = (ite _ _ _ : List Log.Entry).rtake capacity
    unfold Log.Collector.record
    split
    · rw [Log.Collector.entries_push, entries, hcapacity, Log.Collector.rtake_rtake_append]
    · exact entries
  · show w.view.lines = ((ite _ _ _ : List Log.Entry).take w.seen).rtake capacity
    split
    · rw [List.take_append_of_le_length seen]
      exact lines
    · exact lines

theorem Kept.tellAll (h : w.Kept capacity) (events : List Log.Event) :
    (w.tellAll events).Kept capacity := by
  induction events generalizing w with
  | nil => exact h
  | cons event rest ih => exact ih (h.tell event)

theorem Kept.refresh (h : w.Kept capacity) : w.refresh.Kept capacity where
  placed := w.view.placed_refresh w.log.entries
  capacity_eq := h.capacity_eq
  seen_le := Nat.le_refl _
  entries := h.entries
  lines := h.entries.trans (congrArg (List.rtake · capacity) List.take_length.symm)

/-- Whatever leaves the snapshot as it is and the view placed. -/
theorem Kept.scrolled (h : w.Kept capacity) {view : Logs} (lines : view.lines = w.view.lines)
    (placed : view.Placed) : Kept capacity { w with view } :=
  ⟨placed, h.capacity_eq, h.seen_le, h.entries, lines.trans h.lines⟩

/-- **Every step keeps a watch.** -/
theorem Kept.step (h : w.Kept capacity) {input : Input} (hstep : w.step input = .ok after) :
    after.Kept capacity := by
  cases input with
  | tell event => cases hstep; exact h.tell event
  | refresh => cases hstep; exact h.refresh
  | up n =>
    cases hup : w.view.tryScrollUp n with
    | error limit => rw [Watch.step, hup] at hstep; cases hstep
    | ok view =>
      rw [Watch.step, hup] at hstep
      cases hstep
      obtain ⟨-, rfl⟩ := Logs.tryScrollUp_eq_ok_iff.mp hup
      exact h.scrolled rfl (w.view.placed_scrollUp n)
  | down n =>
    cases hstep
    exact h.scrolled (w.view.lines_scrollDown n) (h.placed.scrollDown n)
  | top => cases hstep; exact h.scrolled rfl w.view.placed_scrollToTop
  | bottom => cases hstep; exact h.scrolled rfl w.view.placed_scrollToBottom

theorem Kept.run (h : w.Kept capacity) {inputs : List Input} (hrun : w.run inputs = .ok after) :
    after.Kept capacity := by
  induction inputs generalizing w with
  | nil => cases hrun; exact h
  | cons input rest ih =>
    rw [Watch.run, List.foldlM_cons] at hrun
    cases hstep : w.step input with
    | error limit => rw [hstep] at hrun; cases hrun
    | ok next =>
      rw [hstep] at hrun
      exact ih (h.step hstep) hrun

theorem Reachable.kept (h : w.Reachable) : ∃ capacity, w.Kept capacity := by
  obtain ⟨threshold, capacity, inputs, hrun⟩ := h
  exact ⟨_, (kept_new threshold capacity).run hrun⟩

/-! ## What is never refused -/

theorem Kept.length_lines (h : w.Kept capacity) : w.view.lines.length = min w.seen capacity := by
  have seen := h.seen_le
  rw [h.lines, List.rtake, List.length_drop, List.length_take]
  omega

/-- **A step of less than half the words is not refused**, if the log keeps no more entries. -/
theorem Kept.exists_step (h : w.Kept capacity) (fits : capacity ≤ 2 ^ 63) (input : Input)
    (short : ∀ n, input = .up n → n < 2 ^ 63) : ∃ after, w.step input = .ok after := by
  cases input with
  | up n =>
    have hn := short n rfl
    have hoffset := h.placed.offset_le
    have hlines := h.length_lines
    have word : w.view.offset + n < wordEnd := by
      unfold Logs.maxOffset at hoffset
      unfold wordEnd
      omega
    rw [Watch.step, Logs.tryScrollUp_eq_ok_iff.mpr ⟨word, rfl⟩]
    exact ⟨_, rfl⟩
  | _ => exact ⟨_, rfl⟩

theorem Kept.exists_run (h : w.Kept capacity) (fits : capacity ≤ 2 ^ 63) {inputs : List Input}
    (short : ∀ n, .up n ∈ inputs → n < 2 ^ 63) : ∃ after, w.run inputs = .ok after := by
  induction inputs generalizing w with
  | nil => exact ⟨w, rfl⟩
  | cons input rest ih =>
    obtain ⟨next, hstep⟩ := h.exists_step fits input fun n heq =>
      short n (heq ▸ List.mem_cons_self)
    rw [Watch.run, List.foldlM_cons, hstep]
    exact ih (h.step hstep) fun n mem => short n (List.mem_cons_of_mem _ mem)

/-! ## What is shown -/

/-- **What a watch shows.** Over a log that fits into memory no step of less than half the words is
refused. The snapshot has the newest of the entries seen, as many as the log holds. The offset is at
most that of the oldest entry, and zero where the view follows. And where there are entries and
lines for them, what is shown is a block of the snapshot: as many entries as there are lines, or
all, the one at the position among them, and the newest one at the end of the block where the view
follows. The drawing has a line for each of them, and empty lines only behind all there are. -/
theorem view_shows_block {threshold : Log.Level} {log : Log.Collector} {inputs : List Input}
    (allocated : Log.Collector.allocate threshold capacity = .ok log)
    (short : ∀ n, .up n ∈ inputs → n < 2 ^ 63) :
    ∃ w, run { log } inputs = .ok w ∧
      w.view.lines = (w.taken.take w.seen).rtake (max capacity 1) ∧
      w.view.offset ≤ w.view.lines.length - 1 ∧ (w.view.following → w.view.offset = 0) ∧
      ∀ visible, 0 < w.view.lines.length → 0 < visible → ∃ before behind,
        w.view.lines = before ++ w.view.window visible ++ behind ∧
        (w.view.window visible).length = min visible w.view.lines.length ∧
        before.length ≤ w.view.lines.length - 1 - w.view.offset ∧
        w.view.lines.length - 1 - w.view.offset < before.length + (w.view.window visible).length ∧
        (w.view.following → behind = []) ∧
        ∀ width, w.view.draw width (visible + 2) =
          Screen.edge {} '┌' '┐' w.view.title width ::
            ((w.view.window visible).map
                (fun e => Screen.sided {} width (Logs.entryRow (width - 2) e)) ++
              List.replicate (visible - w.view.lines.length) (Screen.sided {} width [])) ++
            [Screen.edge {} '└' '┘' [] width] := by
  obtain ⟨rfl, small⟩ := Log.Collector.allocate_eq_ok allocated
  have fits : max capacity 1 ≤ 2 ^ 63 := by
    unfold Log.Collector.entrySize maxBytes at small
    omega
  obtain ⟨w, hrun⟩ := (kept_new threshold capacity).exists_run fits short
  have kept := (kept_new threshold capacity).run hrun
  refine ⟨w, hrun, kept.lines, kept.placed.offset_le, kept.placed.offset_of_following,
    fun visible some pos => ?_⟩
  have hsome : w.view.lines ≠ [] := List.ne_nil_of_length_pos some
  have hbefore : (w.view.lines.take (w.view.firstShown visible)).length =
      w.view.firstShown visible := by
    rw [List.length_take]
    have := w.view.firstShown_add_le visible
    omega
  obtain ⟨above, below⟩ := kept.placed.position_shown some pos
  refine ⟨_, _, w.view.lines_eq_window visible, w.view.length_window visible, ?_, ?_,
    fun following => kept.placed.drop_of_following following visible,
    fun width => w.view.draw_window hsome width visible⟩
  · rw [hbefore]
    exact above
  · rw [hbefore]
    exact below

/-- Of four entries the log keeps three, and one step up from the newest a line shows the second of
them. -/
theorem view_shows_block_between :
    let entry (text : String) : Log.Event := .of .info "oracle" text
    let inputs : List Input := [.tell (entry "one"), .tell (entry "two"), .tell (entry "three"),
      .tell (entry "four"), .refresh, .up 1]
    (Log.Collector.allocate .trace 3 = .ok (.new .trace 3) ∧ ∀ n, .up n ∈ inputs → n < 2 ^ 63) ∧
      ∃ w, run { log := .new .trace 3 } inputs = .ok w ∧ 0 < w.view.lines.length ∧
        (w.view.window 1).length = 1 ∧ w.view.window 1 = [⟨.info, "oracle", "three", []⟩] ∧
        ∃ before behind, w.view.lines = before ++ w.view.window 1 ++ behind ∧
          before.length = 1 := by
  intro entry inputs
  have short : ∀ n, .up n ∈ inputs → n < 2 ^ 63 := by
    intro n mem
    obtain rfl : n = 1 := by simpa [inputs] using mem
    decide
  have allocated : Log.Collector.allocate .trace 3 = .ok (.new .trace 3) := rfl
  obtain ⟨w, hrun, -, -, -, shown⟩ := view_shows_block allocated short
  have hw : w = _ := (Except.ok.inj hrun).symm
  have some : 0 < w.view.lines.length := by rw [hw]; decide
  obtain ⟨before, behind, hlines, hlength, hle, hlt, -⟩ := shown 1 some Nat.one_pos
  have hone : (w.view.window 1).length = 1 := by rw [hlength]; omega
  refine ⟨⟨allocated, short⟩, w, hrun, some, hone, by rw [hw]; decide, before, behind, hlines, ?_⟩
  have hposition : w.view.lines.length - 1 - w.view.offset = 1 := by rw [hw]; decide
  omega

end Watch

end Panel

end PocketCalc
