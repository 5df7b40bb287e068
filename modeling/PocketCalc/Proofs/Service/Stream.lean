import Mathlib.Data.List.Basic
import Mathlib.Order.Bounds.Basic
import PocketCalc.Proofs.Service.Turn

/-!
# Reading a stream

A stream remembers the newest of the updates that were published to it, and nothing else of them but
their number. It **holds** a list of updates (`Stream.Holds`) when they are what was published. Then
what a reader gets next is settled by that list and the reader's place in it (`Holds.receive_eq`),
and so is all that it gets until it has caught up (`Holds.drain_eq`).

**The law** (`holds_publishAll`): a stream that was new holds what was published to it, at any depth.

**What it does not establish.** Where readers stand: see `Subscription`.
-/

namespace PocketCalc

/-! ## Updates -/

/-- **The update after so many keystrokes** of a list. -/
def Calculator.updateAfter (c : Calculator) (keys : List Keystroke) (count : Nat) : Update :=
  .of (c.pressAll (keys.take count))

theorem Calculator.length_updates (c : Calculator) (keys : List Keystroke) :
    (c.updates keys).length = keys.length := by
  induction keys generalizing c with
  | nil => rfl
  | cons key rest ih => rw [updates, List.length_cons, List.length_cons, ih]

theorem Calculator.getElem?_updates (c : Calculator) {keys : List Keystroke} {i : Nat}
    (h : i < keys.length) : (c.updates keys)[i]? = some (c.updateAfter keys (i + 1)) := by
  induction keys generalizing c i with
  | nil => exact absurd h (Nat.not_lt_zero i)
  | cons key rest ih =>
    cases i with
    | zero => rfl
    | succ i =>
      rw [updates, List.getElem?_cons_succ, ih (c.press key) (Nat.lt_of_succ_lt_succ h)]
      rfl

/-- Keystrokes that come later do not change what was shown. -/
theorem Calculator.updateAfter_append (c : Calculator) {keys : List Keystroke} {count : Nat}
    (h : count ≤ keys.length) (more : List Keystroke) :
    c.updateAfter (keys ++ more) count = c.updateAfter keys count := by
  rw [updateAfter, updateAfter, List.take_append_of_le_length h]

theorem Calculator.updateAfter_length (c : Calculator) (keys : List Keystroke) :
    c.updateAfter keys keys.length = .of (c.pressAll keys) := by
  rw [updateAfter, List.take_length]

namespace Stream

/-! ## Depth -/

/-- **The depth of a stream is its capacity, rounded up to a power of two.** -/
theorem powerFor_isLeast (n : Nat) : IsLeast {p | (∃ e, p = 2 ^ e) ∧ n ≤ p} (powerFor n) := by
  unfold powerFor
  split
  next small =>
    refine ⟨⟨⟨0, rfl⟩, small⟩, ?_⟩
    rintro p ⟨⟨e, rfl⟩, -⟩
    exact Nat.one_le_two_pow
  next large =>
    have hlt : n - 1 < 2 ^ ((n - 1).log2 + 1) := Nat.lt_log2_self
    refine ⟨⟨⟨_, rfl⟩, by omega⟩, ?_⟩
    rintro p ⟨⟨e, rfl⟩, hle⟩
    have hlog : (n - 1).log2 < e := (Nat.log2_lt (by omega)).mpr (by omega)
    exact Nat.pow_le_pow_right (by decide) hlog

theorem powerFor_pos (n : Nat) : 0 < powerFor n := by
  obtain ⟨⟨⟨e, he⟩, -⟩, -⟩ := powerFor_isLeast n
  rw [he]
  exact Nat.two_pow_pos e

/-! ## Holding -/

/-- **A stream holds updates**: they were published, one after another, and the newest of them are
remembered. -/
structure Holds (s : Stream) (updates : List Update) : Prop where
  published : s.published = updates.length
  recent : s.recent = updates.reverse.take s.depth

variable {s : Stream} {updates : List Update}

theorem holds_new (capacity : Nat) : (new capacity).Holds [] := ⟨rfl, (List.take_nil).symm⟩

theorem Holds.publish (h : s.Holds updates) (u : Update) :
    (s.publish u).Holds (updates ++ [u]) where
  published := by
    rw [List.length_append, List.length_singleton, ← h.published]
    rfl
  recent := by
    show (u :: s.recent).take s.depth = (updates ++ [u]).reverse.take s.depth
    rw [h.recent, List.reverse_append, List.reverse_singleton, List.singleton_append]
    cases s.depth with
    | zero => rfl
    | succ n =>
      rw [List.take_succ_cons, List.take_succ_cons, List.take_take, Nat.min_eq_left n.le_succ]

theorem Holds.publishAll (h : s.Holds updates) (more : List Update) :
    (s.publishAll more).Holds (updates ++ more) := by
  induction more generalizing s updates with
  | nil => rwa [List.append_nil]
  | cons u rest ih =>
    have := ih (h.publish u)
    rwa [List.append_assoc] at this

theorem depth_publishAll (s : Stream) (updates : List Update) :
    (s.publishAll updates).depth = s.depth := by
  induction updates generalizing s with
  | nil => rfl
  | cons u rest ih => exact ih (s.publish u)

/-- **A stream that was new holds what was published to it.** -/
theorem holds_publishAll (capacity : Nat) (updates : List Update) :
    ((new capacity).publishAll updates).Holds updates :=
  (holds_new capacity).publishAll updates

/-! ## Reading -/

/-- The remembered updates, found by their places among all of them. -/
theorem Holds.getElem?_recent (h : s.Holds updates) {cursor : Nat} (some : cursor < updates.length)
    (near : updates.length - cursor ≤ s.depth) :
    s.recent[updates.length - cursor - 1]? = updates[cursor]? := by
  rw [h.recent, List.getElem?_take_of_lt (by omega), List.getElem?_reverse (by omega)]
  congr 1
  omega

/-- **One reading**, by the place of its reader: what it gives, and where the reader goes on. -/
theorem Holds.receive_eq (h : s.Holds updates) (cursor : Nat) :
    s.receive cursor =
      if s.depth < updates.length - cursor then
        (.lagged (updates.length - cursor - s.depth), updates.length - s.depth)
      else
        match updates[cursor]? with
        | some u => (.update u, cursor + 1)
        | none => (.caughtUp, cursor) := by
  unfold receive unread
  rw [h.published]
  split
  next => rfl
  next near =>
    split
    next none => rw [List.getElem?_eq_none (by omega)]
    next some =>
      have hlt : cursor < updates.length := by omega
      rw [h.getElem?_recent hlt (by omega), List.getElem?_eq_getElem hlt]

/-- A reader that is not too far behind gets what it has not read, and has caught up. -/
theorem Holds.drain_near (h : s.Holds updates) {cursor : Nat} (inside : cursor ≤ updates.length)
    (near : updates.length - cursor ≤ s.depth) :
    s.drain cursor = ((updates.drop cursor).map .update, updates.length) := by
  induction hn : updates.length - cursor generalizing cursor with
  | zero =>
    have hcursor : cursor = updates.length := by omega
    have hreceive : s.receive cursor = (.caughtUp, cursor) := by
      rw [h.receive_eq, if_neg (by omega), List.getElem?_eq_none (by omega)]
    rw [drain, hreceive, dif_pos rfl, hcursor, List.drop_length, List.map_nil]
  | succ n ih =>
    have hlt : cursor < updates.length := by omega
    have hreceive : s.receive cursor = (.update updates[cursor], cursor + 1) := by
      rw [h.receive_eq, if_neg (by omega), List.getElem?_eq_getElem hlt]
    rw [drain, hreceive, dif_neg (by simp), ih (by omega) (by omega) (by omega),
      List.drop_eq_getElem_cons hlt, List.map_cons]

/-- **Reading on until caught up**: at most one lag, and then all the updates from there. -/
theorem Holds.drain_eq (h : s.Holds updates) {cursor : Nat} (inside : cursor ≤ updates.length) :
    s.drain cursor =
      ((if s.depth < updates.length - cursor then
            [.lagged (updates.length - cursor - s.depth)] else []) ++
          (updates.drop (max cursor (updates.length - s.depth))).map .update,
        updates.length) := by
  by_cases behind : s.depth < updates.length - cursor
  · have hreceive : s.receive cursor =
        (.lagged (updates.length - cursor - s.depth), updates.length - s.depth) := by
      rw [h.receive_eq, if_pos behind]
    have hplace : max cursor (updates.length - s.depth) = updates.length - s.depth := by omega
    rw [drain, hreceive, dif_neg (by simp), h.drain_near (by omega) (by omega), if_pos behind,
      hplace]
    rfl
  · have hplace : max cursor (updates.length - s.depth) = cursor := by omega
    rw [h.drain_near inside (by omega), if_neg behind, hplace]
    rfl

/-- The last thing that a reader with something to read gets is the newest update. -/
theorem Holds.drain_last (h : s.Holds updates) (deep : 0 < s.depth) {cursor : Nat}
    (unread : cursor < updates.length) :
    ∃ front u, updates.getLast? = some u ∧ (s.drain cursor).1 = front ++ [.update u] := by
  rw [h.drain_eq unread.le]
  rcases List.eq_nil_or_concat' updates with rfl | ⟨older, u, rfl⟩
  · exact absurd unread (Nat.not_lt_zero cursor)
  · have hplace : max cursor ((older ++ [u]).length - s.depth) ≤ older.length := by
      rw [List.length_append, List.length_singleton] at unread ⊢
      omega
    rw [List.drop_append_of_le_length hplace, List.map_append, ← List.append_assoc]
    exact ⟨_, u, List.getLast?_concat, rfl⟩

theorem Holds.length_drain_le (h : s.Holds updates) {cursor : Nat}
    (inside : cursor ≤ updates.length) : (s.drain cursor).1.length ≤ s.depth + 1 := by
  rw [h.drain_eq inside]
  simp only [List.length_append, List.length_map, List.length_drop]
  split
  · rw [List.length_singleton]
    omega
  · rw [List.length_nil]
    omega

/-! ## The loop of a reader -/

/-- **Reading on**, one reading after another, until one finds that the reader has caught up: what
the others gave, and where the reader stands then. -/
inductive ReadsOn (s : Stream) : Nat → List Receipt → Nat → Prop where
  | stop {cursor : Nat} : (s.receive cursor).1 = .caughtUp →
      ReadsOn s cursor [] (s.receive cursor).2
  | more {cursor last : Nat} {receipts : List Receipt} : (s.receive cursor).1 ≠ .caughtUp →
      ReadsOn s (s.receive cursor).2 receipts last →
      ReadsOn s cursor ((s.receive cursor).1 :: receipts) last

/-- **The loop of a reader ends**, from wherever it begins. -/
theorem readsOn_drain (s : Stream) (cursor : Nat) :
    s.ReadsOn cursor (s.drain cursor).1 (s.drain cursor).2 := by
  fun_induction drain s cursor with
  | case1 cursor caughtUp => exact .stop caughtUp
  | case2 cursor more rest last hrest ih =>
    rw [hrest] at ih
    exact .more more ih

end Stream

end PocketCalc
