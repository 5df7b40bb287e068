/-!
# Limits

The numbers of this program are words, and what it holds lies in memory. What is past the limits of
either is refused with a `LimitError`, before anything else is done.

**What it does not establish.** That there is memory for what is within the limits.
-/

namespace PocketCalc

/-- The first number that is no word. -/
def wordEnd : Nat := 2 ^ 64

/-- The most bytes that one thing in memory may have. -/
def maxBytes : Nat := 2 ^ 63 - 1

/-- The most keystrokes that a queue can count. -/
def maxWaiting : Nat := 2 ^ 61 - 1

/-- **Why something cannot be done by any machine.** -/
inductive LimitError where
  /-- More keystrokes would wait than a queue can count. -/
  | waiting
  | memory
  | sum
  deriving DecidableEq, Repr

def LimitError.message : LimitError → String
  | waiting =>
    "a semaphore may not have more than MAX_PERMITS permits (" ++ toString maxWaiting ++ ")"
  | memory => "capacity overflow"
  | sum => "attempt to add with overflow"

/-- Room for so many things of a size. -/
def room (count size : Nat) : Except LimitError Unit :=
  if count * size ≤ maxBytes then .ok () else .error .memory

end PocketCalc
