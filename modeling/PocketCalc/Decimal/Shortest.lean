import PocketCalc.Binary.Format

/-!
# Shortest decimals

A **decimal** is a whole number of steps of a power of ten. The grids of the powers of ten are
nested, so of all decimals that a format rounds to one magnitude, those with the fewest digits lie
on the coarsest grid that has any. `shortest` walks the grids from coarse to fine and tests on each
the two neighbours of the exact value.

**The law** (`nearest_of_onGrid`): a decimal is taken from a grid only after it has been read back.
The walk ends at the grid of `10 ^ (-scale)`, where every value of the format lies.

**What it does not establish.** Signs, zero and the layout of the digits: see `Decimal.Layout`.
-/

namespace PocketCalc

/-- **A decimal**: `digits * 10 ^ exponent`. -/
structure Decimal where
  /-- The significant digits, read as a number. -/
  digits : Nat
  /-- The power of ten of the last digit. -/
  exponent : Int
  deriving DecidableEq, Repr

namespace Decimal

open Binary (Format)

def nearest (f : Format) (d : Decimal) : Nat :=
  f.nearest (d.digits * 10 ^ d.exponent.toNat * 2 ^ f.scale) (10 ^ (-d.exponent).toNat)

/-- **Where a value lies on a grid**: between two neighbouring steps, and nearer to which. -/
structure Place where
  below : Nat
  /-- The value is nearer to the step below than to the step above. -/
  nearerBelow : Bool

/-- The place of `units` on the grid of `10 ^ exponent`. -/
def Place.of (f : Format) (units : Nat) (exponent : Int) : Place :=
  let num := units * 10 ^ (-exponent).toNat
  let den := 2 ^ f.scale * 10 ^ exponent.toNat
  ⟨num / den, decide (2 * (num % den) < den)⟩

/-- **The choice on one grid**: a neighbour of the value that is read back as `magnitude`. Where
both are, the nearer one; halfway between them, the upper one. -/
def onGrid (f : Format) (magnitude : Nat) (exponent : Int) : Option Decimal :=
  let place := Place.of f (f.units magnitude) exponent
  let lower : Decimal := ⟨place.below, exponent⟩
  let upper : Decimal := ⟨place.below + 1, exponent⟩
  if lower.nearest f = magnitude ∧ (upper.nearest f ≠ magnitude ∨ place.nearerBelow) then some lower
  else if upper.nearest f = magnitude then some upper
  else none

/-- The walk over the grids `top`, `top - 1`, … with `steps` grids left before the last one. -/
def walk (f : Format) (magnitude : Nat) : Nat → Int → Decimal
  | 0, exponent => ⟨(Place.of f (f.units magnitude) exponent).below, exponent⟩
  | steps + 1, exponent =>
    (onGrid f magnitude exponent).getD (walk f magnitude steps (exponent - 1))

/-- Digits of the whole part of a magnitude's value; a value below one has none. -/
def wholeDigits (f : Format) (magnitude : Nat) : Nat :=
  let whole := f.units magnitude / 2 ^ f.scale
  if whole = 0 then 0 else (Nat.toDigits 10 whole).length

/-- **The shortest decimal** that is read back as the finite nonzero `magnitude`, and of those the
one nearest to its value. The first grid is so coarse that the value lies below its first step. -/
def shortest (f : Format) (magnitude : Nat) : Decimal :=
  let top := wholeDigits f magnitude
  walk f magnitude (top + f.scale) top

/-! ## What a choice gives -/

/-- A decimal chosen on a grid is read back. -/
theorem nearest_of_onGrid {f : Format} {magnitude : Nat} {exponent : Int} {d : Decimal}
    (h : onGrid f magnitude exponent = some d) : d.nearest f = magnitude := by
  unfold onGrid at h
  simp only at h
  split at h
  next both => cases h; exact both.1
  next =>
    split at h
    next up => cases h; exact up
    next => cases h

end Decimal

end PocketCalc
