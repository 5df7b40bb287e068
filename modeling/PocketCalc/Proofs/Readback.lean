import PocketCalc.Proofs.Split

/-!
# A result loses nothing but its sign

A result is kept as text and read again at the next operator. The text is the shortest that could
have been chosen (`Decimal.IsShortest`), the reading is rounding to nearest
(`Binary32.read?_isNearest`), and one undoes the other on every finite number, the subnormal ones
and those of forty digits included.

**The law** (`result_reads_back`): the split of a result's text and one operator has the number
without its sign as its one operand and sets nothing aside. The sign of a number that is not zero is
read as one more operator, in front.
-/

namespace PocketCalc

open Binary (Format)
open Numeral (IsPlain)

/-- **The text is the shortest one of a magnitude**: it writes, in place, a decimal that is rounded
to the magnitude, and no decimal with fewer digits is. -/
def Decimal.IsShortest (text : List Char) (magnitude : Nat) : Prop :=
  ∃ d : Decimal, text = d.writeInPlace [] ∧ d.nearest .single = magnitude ∧
    ∀ c : Decimal, c.nearest .single = magnitude → d.digitText.length ≤ c.digitText.length

/-- The text of every finite magnitude is its shortest one. -/
theorem Decimal.isShortest_magnitudeText (m : Fin (255 * 2 ^ 23)) :
    IsShortest (magnitudeText m) m := by
  by_cases zero : m.val = 0
  · refine ⟨⟨0, 0⟩, by rw [zero]; rfl, ?_, fun c _ => Nat.length_toDigits_pos⟩
    rw [nearest_zero Binary32.single_wide, zero]
  · refine ⟨shortest .single m, magnitudeText_of_ne zero,
      nearest_shortest Binary32.single_wide m.isLt, ?_⟩
    intro c hc
    exact length_digitText_shortest_le Binary32.single_wide (Nat.pos_of_ne_zero zero) m.isLt hc

/-- A plain text with a digit is read as the number that is nearest to what it writes; past the last
finite magnitude, as infinity. -/
theorem Binary32.read?_isNearest {text : List Char} (h : IsPlain text)
    (digit : ∃ c ∈ text, c.isDigit) :
    ∃ m, Format.single.IsNearest ((Decimal.ofPlain text).inUnits .single) m ∧
      Binary32.read? text = some (.ofMagnitude false (min Format.single.infinity m)) := by
  obtain ⟨m, hm, hnearest⟩ := Decimal.nearest_isNearest single_wide (Decimal.ofPlain text)
  exact ⟨m, hm, by rw [read?_plain h digit, hnearest]⟩

/-- **A result loses nothing but its sign.** Its text, split with any operator behind it, has one
operand, the number without its sign, and nothing is set aside; a sign that is shown is read as a
subtraction in front. The text is plain behind its sign and the shortest that is read back, and
plain texts are read as the numbers nearest to them. -/
theorem result_reads_back (negative : Bool) (magnitude : Fin (255 * 2 ^ 23)) (op : Operator) :
    let x := Binary32.finite negative magnitude
    Split.ofBuffer (x.plainText ++ [op.symbol]) =
        ⟨[x.abs], if negative ∧ magnitude.val ≠ 0 then [.subtract, op] else [op], []⟩ ∧
      (∃ text, x.plainText = (if negative ∧ magnitude.val ≠ 0 then '-' :: text else text) ∧
        IsPlain text ∧ Decimal.IsShortest text magnitude) ∧
      ∀ text, IsPlain text → (∃ c ∈ text, c.isDigit) →
        ∃ m, Format.single.IsNearest ((Decimal.ofPlain text).inUnits .single) m ∧
          Binary32.read? text = some (.ofMagnitude false (min Format.single.infinity m)) := by
  refine ⟨?_, ⟨Decimal.magnitudeText magnitude, ?_, ?_, ?_⟩, ?_⟩
  · rw [Split.ofBuffer_plainText, Split.signOperators]
    split <;> rfl
  · exact Binary32.plainText_finite negative magnitude
  · exact Decimal.isPlain_magnitudeText magnitude
  · exact Decimal.isShortest_magnitudeText magnitude
  · exact fun text => Binary32.read?_isNearest

end PocketCalc
