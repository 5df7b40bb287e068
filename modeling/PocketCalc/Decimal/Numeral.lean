import PocketCalc.Binary.Single
import PocketCalc.Decimal.Shortest

/-!
# Numerals

The texts that are numbers, and the number each one is. A numeral is an optional sign and then the
name of an infinity, the name of the undefined value, or decimal digits with at most one point and
an optional power of ten. At least one digit stands before the power of ten.

**The law.** A decimal numeral is rounded once, from its exact value (`Decimal.nearest`). A power
of ten too far out for any format is settled by its size alone, before it is computed.
-/

namespace PocketCalc

/-- **A numeral**, taken apart. -/
inductive Numeral where
  | nan
  | infinite (negative : Bool)
  /-- Digits without leading zeros, and the power of ten of the last one. -/
  | decimal (negative : Bool) (digits : List Char) (exponent : Int)
  deriving DecidableEq, Repr

namespace Numeral

/-! ## Reading -/

/-- An optional sign before the rest of a text. -/
def splitSign : List Char → Bool × List Char
  | '-' :: rest => (true, rest)
  | '+' :: rest => (false, rest)
  | rest => (false, rest)

def readDigits (text : List Char) : Option Nat :=
  if !text.isEmpty && text.all Char.isDigit then some (Nat.ofDigitChars 10 text 0) else none

/-- The power of ten at the end of a numeral: nothing, or a mark with a signed number. -/
def readPower : List Char → Option Int
  | [] => some 0
  | mark :: rest =>
    if mark = 'e' ∨ mark = 'E' then
      let (negative, digits) := splitSign rest
      (readDigits digits).map fun n => if negative then -(n : Int) else n
    else none

def readDecimal (negative : Bool) (text : List Char) : Option Numeral := do
  let whole := text.takeWhile Char.isDigit
  let afterWhole := text.dropWhile Char.isDigit
  let (fraction, afterFraction) := match afterWhole with
    | '.' :: rest => (rest.takeWhile Char.isDigit, rest.dropWhile Char.isDigit)
    | rest => ([], rest)
  let digits := whole ++ fraction
  if digits.isEmpty then none
  else
    let power ← readPower afterFraction
    some (.decimal negative (digits.dropWhile (· = '0')) (power - fraction.length))

/-- **The numeral that a text is**, if it is one. Names are read in either case. -/
def read? (text : List Char) : Option Numeral :=
  let (negative, body) := splitSign text
  let name := String.ofList (body.map Char.toLower)
  if name = "inf" ∨ name = "infinity" then some (.infinite negative)
  else if name = "nan" then some .nan
  else readDecimal negative body

/-! ## The number of a numeral -/

/-- The magnitude of a decimal numeral. With its first digit past the power `scale` it is beyond
every finite magnitude, and below the power `-scale` nearer to zero than to any other. -/
def magnitude (f : Binary.Format) (digits : List Char) (exponent : Int) : Nat :=
  let top : Int := digits.length + exponent
  if digits.isEmpty then 0
  else if (f.scale : Int) < top then f.infinity
  else if top < -(f.scale : Int) then 0
  else (Decimal.mk (Nat.ofDigitChars 10 digits 0) exponent).nearest f

/-- The number of single precision nearest to a numeral. -/
def toBinary32 : Numeral → Binary32
  | .nan => .nan
  | .infinite negative => .infinite negative
  | .decimal negative digits exponent =>
    .ofMagnitude negative (magnitude .single digits exponent)

end Numeral

/-- **The number that a text is**, if it is one. -/
def Binary32.read? (text : List Char) : Option Binary32 :=
  (Numeral.read? text).map Numeral.toBinary32

end PocketCalc
