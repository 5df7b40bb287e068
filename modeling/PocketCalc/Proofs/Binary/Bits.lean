import Mathlib.Tactic.SplitIfs
import PocketCalc.Binary.Single

/-!
# Bit patterns

A number is read off a word: the top bit is the sign, the eight bits below it are the **exponent
field** (`Binary32.exponentField`), and together with the fraction they are the magnitude. A field
of ones is kept for what is not finite.

**The law** (`toBits_ofBits`): a word of a defined number is the only one with that number, so equal
numbers have equal bits, the two zeros apart from each other.

**What it does not establish.** The bits of a value that is no number: many words are read as it.
-/

namespace PocketCalc.Binary32

/-- The exponent field of a word. -/
def exponentField (word : UInt32) : Nat := word.toNat / 2 ^ 23 % 2 ^ 8

/-- A word is a sign, an exponent field and a fraction, and the last two make the magnitude. -/
theorem magnitude_eq (word : UInt32) :
    word.toNat % 2 ^ 31 = exponentField word * 2 ^ 23 + word.toNat % 2 ^ 23 := by
  rw [exponentField]
  omega

theorem exponentField_lt (word : UInt32) : exponentField word < 2 ^ 8 :=
  Nat.mod_lt _ (by decide)

/-- **The finite words** are those whose exponent field is not all ones. -/
theorem isFinite_ofBits (word : UInt32) : (ofBits word).isFinite ↔ exponentField word ≠ 255 := by
  have hsplit := magnitude_eq word
  have hfield := exponentField_lt word
  rw [ofBits, ofMagnitude]
  split_ifs with finite infinite
  · exact iff_of_true rfl (by omega)
  · exact iff_of_false Bool.false_ne_true (by omega)
  · exact iff_of_false Bool.false_ne_true (by omega)

/-- The sign bit and the rest of a word are the word. -/
theorem ofNat_sign_add (word : UInt32) :
    UInt32.ofNat ((decide (2 ^ 31 ≤ word.toNat)).toNat * 2 ^ 31 + word.toNat % 2 ^ 31) = word := by
  have hlt := word.toNat_lt
  have hword : (decide (2 ^ 31 ≤ word.toNat)).toNat * 2 ^ 31 + word.toNat % 2 ^ 31 =
      word.toNat := by
    by_cases negative : 2 ^ 31 ≤ word.toNat
    · rw [decide_eq_true negative, Bool.toNat_true]
      omega
    · rw [decide_eq_false negative, Bool.toNat_false]
      omega
  rw [hword, UInt32.ofNat_toNat]

/-- **A defined number has the bits that it was read from.** -/
theorem toBits_ofBits {word : UInt32} (defined : ofBits word ≠ .nan) :
    (ofBits word).toBits = word := by
  have hword := ofNat_sign_add word
  unfold ofBits ofMagnitude at defined ⊢
  split_ifs at defined ⊢ with finite infinite
  · exact hword
  · rwa [infinite] at hword
  · exact absurd rfl defined

/-- A finite number is defined. -/
theorem toBits_ofBits_of_isFinite {word : UInt32} (finite : (ofBits word).isFinite) :
    (ofBits word).toBits = word := by
  refine toBits_ofBits fun undefined => ?_
  rw [undefined] at finite
  cases finite

end PocketCalc.Binary32
