import PocketCalc.Binary.Single
import PocketCalc.Decimal.Shortest

/-!
# The written form of numbers

How the digits of a shortest decimal become text. A `Layout` is the choice of one format: from
which powers of ten on the exponent is written out, and whether a whole number shows its point.

**The two layouts.** `Layout.plain` is what the display shows: every digit in its place, never an
exponent. `Layout.precise` is what log fields hold: at least one place after the point, and an
exponent for numbers from `10 ^ 16` up and below `10 ^ (-4)`.
-/

namespace PocketCalc.Decimal

/-- **The choices of a written form.** -/
structure Layout where
  /-- Leading powers of ten that are written in place, lowest and highest; `none` for all. -/
  inPlace : Option (Int × Int)
  /-- What a whole number written in place ends with. -/
  wholeEnding : List Char

/-- Digits in their places, and nothing after a whole number. -/
def Layout.plain : Layout := ⟨none, []⟩

/-- In place from `0.0001` to below `10 ^ 16`, with a point in every number so written. -/
def Layout.precise : Layout := ⟨some (-4, 15), ".0".toList⟩

def digitText (d : Decimal) : List Char := Nat.toDigits 10 d.digits

/-- The power of ten of the first digit. -/
def leading (d : Decimal) : Int := d.digitText.length + d.exponent - 1

/-- Every digit in its place: zeros fill the gap to the point, on either side. -/
def writeInPlace (wholeEnding : List Char) (d : Decimal) : List Char :=
  let digits := d.digitText
  let whole : Int := digits.length + d.exponent
  if 0 ≤ d.exponent then digits ++ List.replicate d.exponent.toNat '0' ++ wholeEnding
  else if 0 < whole then digits.take whole.toNat ++ '.' :: digits.drop whole.toNat
  else '0' :: '.' :: (List.replicate (-whole).toNat '0' ++ digits)

/-- The first digit, the others after a point, and the power of ten of the first. -/
def writeScientific (d : Decimal) : List Char :=
  let fraction := match d.digitText.drop 1 with
    | [] => []
    | rest => '.' :: rest
  d.digitText.take 1 ++ fraction ++ 'e' :: (toString d.leading).toList

/-- The text of a decimal that is not zero. -/
def Layout.write (layout : Layout) (d : Decimal) : List Char :=
  match layout.inPlace with
  | none => writeInPlace layout.wholeEnding d
  | some (low, high) =>
    if low ≤ d.leading ∧ d.leading ≤ high then writeInPlace layout.wholeEnding d
    else writeScientific d

/-- The text of a magnitude of a format: zero is a single digit, all else its shortest decimal. -/
def Layout.writeMagnitude (layout : Layout) (f : Binary.Format) (magnitude : Nat) : List Char :=
  if magnitude = 0 then '0' :: layout.wholeEnding else layout.write (shortest f magnitude)

end PocketCalc.Decimal

namespace PocketCalc.Binary32

open Decimal (Layout)
open Binary (Format)

/-- The text of a number whose magnitudes are written by `magnitude`. -/
def textWith (magnitude : Nat → List Char) : Binary32 → List Char
  | .nan => "NaN".toList
  | .infinite negative => if negative then "-inf".toList else "inf".toList
  | .finite negative m => if negative then '-' :: magnitude m else magnitude m

/-- **The plain text**: the fewest digits that read back, in their places. Neither zero shows a
sign. -/
def plainText (x : Binary32) : List Char :=
  if x.isZero then ['0'] else x.textWith (Layout.plain.writeMagnitude .single)

/-- **The precise text**, for log fields. -/
def preciseText (x : Binary32) : List Char :=
  x.textWith (Layout.precise.writeMagnitude .single)

/-- The pattern in double precision of a single-precision magnitude: the same value, exactly. -/
def widen (magnitude : Nat) : Nat :=
  Format.double.nearest
    (Format.single.units magnitude * 2 ^ (Format.double.scale - Format.single.scale)) 1

/-- **The widened text**: the precise text of the same value in double precision, whose neighbours
are closer, so that more digits tell it from them. -/
def widenedText (x : Binary32) : List Char :=
  x.textWith fun m => Layout.precise.writeMagnitude .double (widen m)

end PocketCalc.Binary32
