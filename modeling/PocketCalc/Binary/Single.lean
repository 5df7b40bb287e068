import PocketCalc.Binary.Format

/-!
# Single-precision numbers

`Binary32` is a number of single precision: a signed finite magnitude, a signed infinity, or the
one value that is no number. Each operation computes the exact result on units and rounds once,
through `Format.nearest`.

**The law.** A zero result has the sign that the operation gives it: an exact sum is negative zero
only when both terms are negative zeros, and a product or quotient takes the sign of its operands.

**What it does not establish.** The many patterns that are no number are read as one value, so
`toBits` answers one of them for all.
-/

namespace PocketCalc

open Binary (Format)

/-- **A number of single precision.** -/
inductive Binary32 where
  | nan
  | infinite (negative : Bool)
  /-- A sign and a finite magnitude. -/
  | finite (negative : Bool) (magnitude : Fin (255 * 2 ^ 23))
  deriving DecidableEq, Repr

namespace Binary32

def zero (negative : Bool) : Binary32 := .finite negative ⟨0, by decide⟩

def one : Binary32 := .finite false ⟨127 * 2 ^ 23, by decide⟩

instance : Inhabited Binary32 := ⟨zero false⟩

/-! ## Bit patterns -/

/-- The number of a magnitude pattern; patterns past the infinity are no number. -/
def ofMagnitude (negative : Bool) (pattern : Nat) : Binary32 :=
  if h : pattern < 255 * 2 ^ 23 then .finite negative ⟨pattern, h⟩
  else if pattern = 255 * 2 ^ 23 then .infinite negative
  else .nan

/-- The number of a word: the top bit is the sign. -/
def ofBits (word : UInt32) : Binary32 :=
  ofMagnitude (2 ^ 31 ≤ word.toNat) (word.toNat % 2 ^ 31)

def toBits : Binary32 → UInt32
  | .nan => .ofNat (255 * 2 ^ 23 + 2 ^ 22)
  | .infinite negative => .ofNat (negative.toNat * 2 ^ 31 + 255 * 2 ^ 23)
  | .finite negative magnitude => .ofNat (negative.toNat * 2 ^ 31 + magnitude)

/-! ## Classes -/

def isFinite : Binary32 → Bool
  | .finite _ _ => true
  | _ => false

/-- One of the two zeros. -/
def isZero : Binary32 → Bool
  | .finite _ magnitude => magnitude.val = 0
  | _ => false

/-! ## Arithmetic -/

/-- The sign turned over. -/
def neg : Binary32 → Binary32
  | .nan => .nan
  | .infinite negative => .infinite !negative
  | .finite negative magnitude => .finite (!negative) magnitude

/-- The sign dropped. -/
def abs : Binary32 → Binary32
  | .nan => .nan
  | .infinite _ => .infinite false
  | .finite _ magnitude => .finite false magnitude

/-- **The one rounding**: the number nearest to `num / den` units, under the given sign. -/
def round (negative : Bool) (num den : Nat) : Binary32 :=
  ofMagnitude negative (Format.single.nearest num den)

/-- A finite number's value in units, with its sign. -/
def signedUnits (negative : Bool) (magnitude : Nat) : Int :=
  if negative then -(Format.single.units magnitude : Int) else Format.single.units magnitude

/-- The sum, rounded once. -/
def add : Binary32 → Binary32 → Binary32
  | .nan, _ => .nan
  | _, .nan => .nan
  | .infinite s, .infinite t => if s = t then .infinite s else .nan
  | .infinite s, .finite _ _ => .infinite s
  | .finite _ _, .infinite t => .infinite t
  | .finite s a, .finite t b =>
    let sum := signedUnits s a + signedUnits t b
    if sum = 0 then zero (s && t) else round (sum < 0) sum.natAbs 1

/-- The difference: the sum with the sign of the second number turned over. -/
def sub (x y : Binary32) : Binary32 := x.add y.neg

/-- The product, rounded once. -/
def mul : Binary32 → Binary32 → Binary32
  | .nan, _ => .nan
  | _, .nan => .nan
  | .infinite s, .infinite t => .infinite (s ^^ t)
  | .infinite s, .finite t b => if b.val = 0 then .nan else .infinite (s ^^ t)
  | .finite s a, .infinite t => if a.val = 0 then .nan else .infinite (s ^^ t)
  | .finite s a, .finite t b =>
    round (s ^^ t) (Format.single.units a * Format.single.units b) (2 ^ Format.single.scale)

/-- The quotient, rounded once. A nonzero number by zero is infinite, zero by zero is undefined. -/
def div : Binary32 → Binary32 → Binary32
  | .nan, _ => .nan
  | _, .nan => .nan
  | .infinite _, .infinite _ => .nan
  | .infinite s, .finite t _ => .infinite (s ^^ t)
  | .finite s _, .infinite t => zero (s ^^ t)
  | .finite s a, .finite t b =>
    if b.val = 0 then if a.val = 0 then .nan else .infinite (s ^^ t)
    else round (s ^^ t) (Format.single.units a * 2 ^ Format.single.scale) (Format.single.units b)

instance : Neg Binary32 := ⟨neg⟩
instance : Add Binary32 := ⟨add⟩
instance : Sub Binary32 := ⟨sub⟩
instance : Mul Binary32 := ⟨mul⟩
instance : Div Binary32 := ⟨div⟩

end Binary32

end PocketCalc
