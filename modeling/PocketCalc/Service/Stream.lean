import PocketCalc.Calculator.Update
import PocketCalc.Limit

/-!
# The stream of updates

Every update goes to a stream that remembers the newest ones. A reader is a **cursor**: the number
of updates that were published before the first one it has not read. A reader that falls behind by
more than the stream remembers is told once how many updates it has lost, and goes on with the
oldest one remembered.

**The law.** Reading never goes back (`le_receive`), and a reading that does not catch up goes
forward (`lt_receive`), so a reader that goes on reading catches up.
-/

namespace PocketCalc

/-- **A stream of updates**, with the newest ones remembered. -/
structure Stream where
  depth : Nat
  published : Nat := 0
  /-- The remembered updates, the newest first. -/
  recent : List Update := []
  deriving DecidableEq, Repr

namespace Stream

/-- **What one reading gives.** -/
inductive Receipt where
  | update (u : Update)
  /-- So many updates were lost; the next reading goes on after them. -/
  | lagged (missed : Nat)
  /-- Everything published has been read. -/
  | caughtUp
  deriving DecidableEq, Repr

/-- The least power of two that is `n` or more. -/
def powerFor (n : Nat) : Nat := if n ≤ 1 then 1 else 2 ^ ((n - 1).log2 + 1)

/-- A stream that remembers `capacity` updates, rounded up to a power of two. -/
def new (capacity : Nat) : Stream := { depth := powerFor capacity }

/-- The bytes of a remembered update, its text apart. -/
def updateSize : Nat := 56

/-- A stream with room for all that it remembers from the start. -/
def allocate (capacity : Nat) : Except LimitError Stream :=
  (room (powerFor capacity) updateSize).map fun _ => new capacity

def publish (s : Stream) (u : Update) : Stream :=
  { s with published := s.published + 1, recent := (u :: s.recent).take s.depth }

def unread (s : Stream) (cursor : Nat) : Nat := s.published - cursor

/-- **One reading**: what it gives, and where the reader goes on. -/
def receive (s : Stream) (cursor : Nat) : Receipt × Nat :=
  if s.depth < s.unread cursor then
    (.lagged (s.unread cursor - s.depth), s.published - s.depth)
  else if s.unread cursor = 0 then (.caughtUp, cursor)
  else
    match s.recent[s.unread cursor - 1]? with
    | some u => (.update u, cursor + 1)
    | none => (.caughtUp, s.published)

theorem le_receive (s : Stream) (cursor : Nat) : cursor ≤ (s.receive cursor).2 := by
  unfold receive
  split
  next h => simp only [unread] at h; simp only; omega
  next =>
    split
    next => exact Nat.le_refl _
    next h =>
      simp only [unread] at h
      split
      · exact Nat.le_succ _
      · simp only; omega

/-- A reading that gives something goes forward. -/
theorem lt_receive {s : Stream} {cursor : Nat} (h : (s.receive cursor).1 ≠ .caughtUp) :
    cursor < (s.receive cursor).2 ∧ cursor < s.published := by
  unfold receive at h ⊢
  split
  next behind => simp only [unread] at behind; simp only; omega
  next behind =>
    rw [if_neg behind] at h
    split
    next none => rw [if_pos none] at h; exact absurd rfl h
    next some =>
      rw [if_neg some] at h
      simp only [unread] at some
      split
      · simp only; omega
      next gone => simp only [gone] at h; exact absurd rfl h

/-- **Reading on until caught up**: the receipts in order, and where the reader stands then. -/
def drain (s : Stream) (cursor : Nat) : List Receipt × Nat :=
  if _h : (s.receive cursor).1 = .caughtUp then ([], (s.receive cursor).2)
  else
    let (rest, last) := s.drain (s.receive cursor).2
    ((s.receive cursor).1 :: rest, last)
termination_by s.published - cursor
decreasing_by
  have := lt_receive ‹_›
  omega

end Stream

end PocketCalc
