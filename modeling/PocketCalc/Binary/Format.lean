/-!
# Binary floating-point formats

A format's **magnitudes** are its bit patterns without the sign, taken as numbers: zero is `0`, the
patterns below `infinity` are the finite magnitudes, and their values grow with the pattern. Every
finite value is a whole number of **units** of `2 ^ (-scale)`, so exact arithmetic on values is
arithmetic on natural numbers.

**The law.** There is one rounding, `Format.nearest`: of an exact ratio of units it takes the
nearest magnitude, and of two equally near ones the even pattern. A ratio past the last finite
magnitude by half a step or more goes to `infinity`.

**What it does not establish.** Signs and the values that are no number are the business of the
types built on a format.
-/

namespace PocketCalc.Binary

-- powers are those of the core library, also where more is imported
attribute [default_instance (high+1), instance (high+1)] instPowNat

/-- **A binary format**, given by the width of its fraction field, the exponent of its unit and the
pattern of its infinity. -/
structure Format where
  /-- Bits of the fraction field. -/
  fraction : Nat
  /-- The least positive value is `2 ^ (-scale)`. -/
  scale : Nat
  /-- The pattern after the last finite magnitude. -/
  infinity : Nat
  deriving Repr, DecidableEq

namespace Format

/-- Single precision: 32 bits with the sign. -/
def single : Format := ⟨23, 149, 255 * 2 ^ 23⟩

/-- Double precision: 64 bits with the sign. -/
def double : Format := ⟨52, 1074, 2047 * 2 ^ 52⟩

/-- **The value of a magnitude**, in units. Below two full binades of patterns the units are the
pattern itself; above, the exponent field shifts the fraction with its leading one. -/
def units (f : Format) (magnitude : Nat) : Nat :=
  if magnitude < 2 ^ (f.fraction + 1) then magnitude
  else (2 ^ f.fraction + magnitude % 2 ^ f.fraction) * 2 ^ (magnitude / 2 ^ f.fraction - 1)

/-- **Rounding to nearest**, of `num / den` units, a tie going to the even pattern. The grid around
the ratio has steps of `2 ^ shift` units, as many as leave `fraction + 1` bits; a carry out of the
top of a binade lands on the first pattern of the next one. -/
def nearest (f : Format) (num den : Nat) : Nat :=
  let shift := (num / den).log2 - f.fraction
  let step := den * 2 ^ shift
  let below := num / step
  let rest := num % step
  let chosen := if step < 2 * rest ∨ (step = 2 * rest ∧ below % 2 = 1) then below + 1 else below
  min f.infinity (shift * 2 ^ f.fraction + chosen)

/-- Patterns of the first two binades are their own values. -/
theorem units_of_lt {f : Format} {magnitude : Nat} (h : magnitude < 2 ^ (f.fraction + 1)) :
    f.units magnitude = magnitude := by
  rw [units, if_pos h]

theorem nearest_le_infinity (f : Format) (num den : Nat) : f.nearest num den ≤ f.infinity :=
  Nat.min_le_left _ _

end Format

end PocketCalc.Binary
