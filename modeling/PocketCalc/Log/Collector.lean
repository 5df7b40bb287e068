import PocketCalc.Limit
import PocketCalc.Log.Event

/-!
# The log collector

A **collector** keeps the newest entries of the events that matter enough, oldest first. When it is
full, the oldest entry makes room.

**The law** (`length_push_le`): a collector that starts within its capacity stays within it, so it
never needs more than one eviction for one event.
-/

namespace PocketCalc.Log

/-- **The newest entries**, at most `capacity` of them. -/
structure Collector where
  /-- The least grave level that is kept. -/
  threshold : Level
  capacity : Nat
  /-- The entries, oldest first. -/
  entries : List Entry := []
  /-- Room for one entry at least. -/
  capacity_pos : 0 < capacity
  deriving Repr

namespace Collector

/-- An empty collector; a capacity of zero counts as one. -/
def new (threshold : Level) (capacity : Nat) : Collector :=
  ⟨threshold, max capacity 1, [], Nat.lt_of_lt_of_le Nat.zero_lt_one (Nat.le_max_right _ _)⟩

/-- The bytes of an entry, its texts apart. -/
def entrySize : Nat := 88

/-- An empty collector, with room for all its entries from the start. -/
def allocate (threshold : Level) (capacity : Nat) : Except LimitError Collector :=
  (room capacity entrySize).map fun _ => new threshold capacity

/-- Keeps one more entry, and drops the oldest ones past the capacity. -/
def push (c : Collector) (entry : Entry) : Collector :=
  { c with entries := (c.entries ++ [entry]).drop (c.entries.length + 1 - c.capacity) }

/-- Keeps an event that matters enough. -/
def record (c : Collector) (event : Event) : Collector :=
  if c.threshold.covers event.level then c.push (.ofEvent event) else c

def recordAll (c : Collector) (events : List Event) : Collector := events.foldl record c

def size (c : Collector) : Nat := c.entries.length

def isEmpty (c : Collector) : Bool := c.size = 0

theorem length_push_le {c : Collector} (entry : Entry) : (c.push entry).size ≤ c.capacity := by
  simp only [push, size, List.length_drop, List.length_append, List.length_singleton]
  omega

theorem getLast?_push (c : Collector) (entry : Entry) :
    (c.push entry).entries.getLast? = some entry := by
  have := c.capacity_pos
  rw [push, List.getLast?_drop, if_neg (by simp; omega), List.getLast?_concat]

end Collector

end PocketCalc.Log
