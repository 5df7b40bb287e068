import PocketCalc.Proofs.Decimal.Numeral

/-!
# The plain layout

A decimal written in place is a plain text that begins with a digit (`isPlain_writeInPlace`,
`exists_cons_writeInPlace`): no sign, no exponent. The decimal that this text writes has the value
it was made from (`inUnits_ofPlain_writeInPlace`), though not always the same digits: the zeros in
front of the point belong to the text alone.

**The law** (`read?_magnitudeText`): the plain text of every finite magnitude is read as that
magnitude.
-/

namespace PocketCalc.Decimal

open Binary (Format)
open Numeral (IsPlain isPlain_of_digits isPlain_point)

theorem isDigit_of_mem_digitText {d : Decimal} {c : Char} (h : c ∈ d.digitText) : c.isDigit :=
  Nat.isDigit_of_mem_toDigits (by decide) (by decide) h

theorem isDigit_of_mem_zeros {n : Nat} {c : Char} (h : c ∈ List.replicate n '0') : c.isDigit := by
  obtain ⟨_, rfl⟩ := List.mem_replicate.mp h
  decide

/-- **The two forms of a decimal in place**: digits alone, or digits on both sides of a point, and a
digit in front. The second form has the decimal's own digits. -/
theorem writeInPlace_cases (d : Decimal) :
    (∃ n : Nat, d.exponent = n ∧ writeInPlace [] d = d.digitText ++ List.replicate n '0') ∨
      ∃ c whole fraction, (∀ x ∈ c :: whole, x.isDigit) ∧ (∀ x ∈ fraction, x.isDigit) ∧
        writeInPlace [] d = (c :: whole) ++ '.' :: fraction ∧
        Nat.ofDigitChars 10 ((c :: whole) ++ fraction) 0 = d.digits ∧
        -(fraction.length : Int) = d.exponent := by
  have hvalue : Nat.ofDigitChars 10 d.digitText 0 = d.digits := Nat.ofDigitChars_ten_toDigits
  simp only [writeInPlace]
  split
  next whole =>
    exact .inl ⟨d.exponent.toNat, by omega, by rw [List.append_nil]⟩
  next fractional =>
    split
    next inside =>
      -- the point stands among the digits
      have hdrop := List.length_drop (i := ((d.digitText.length : Int) + d.exponent).toNat)
        (l := d.digitText)
      have hsplit :=
        List.take_append_drop ((d.digitText.length : Int) + d.exponent).toNat d.digitText
      have htake := List.length_take (i := ((d.digitText.length : Int) + d.exponent).toNat)
        (l := d.digitText)
      have hmem : ∀ {x}, x ∈ d.digitText → x.isDigit := isDigit_of_mem_digitText
      generalize d.digitText.drop _ = fraction at *
      generalize d.digitText.take _ = whole at *
      cases whole with
      | nil => rw [List.length_nil] at htake; omega
      | cons c whole =>
        rw [← hsplit] at hvalue hmem
        refine .inr ⟨c, whole, fraction, fun x hx => hmem (List.mem_append_left _ hx),
          fun x hx => hmem (List.mem_append_right _ hx), rfl, hvalue, ?_⟩
        omega
    next before =>
      -- zeros fill the places between the point and the digits
      refine .inr ⟨'0', [], List.replicate (-((d.digitText.length : Int) + d.exponent)).toNat '0' ++
        d.digitText, ?_, ?_, rfl, ?_, ?_⟩
      · exact fun x hx => isDigit_of_mem_zeros (n := 1) hx
      · intro x hx
        exact (List.mem_append.mp hx).elim isDigit_of_mem_zeros isDigit_of_mem_digitText
      · rw [List.singleton_append, Nat.ofDigitChars_cons, Nat.ofDigitChars_append,
          Nat.ofDigitChars_replicate_zero]
        exact hvalue
      · rw [List.length_append, List.length_replicate]
        omega

theorem isPlain_writeInPlace (d : Decimal) : IsPlain (writeInPlace [] d) := by
  rcases d.writeInPlace_cases with ⟨n, _, htext⟩ | ⟨c, whole, fraction, hw, hf, htext, _⟩
  · rw [htext]
    exact isPlain_of_digits fun x hx =>
      (List.mem_append.mp hx).elim isDigit_of_mem_digitText isDigit_of_mem_zeros
  · rw [htext]
    exact isPlain_point hw hf

theorem exists_cons_writeInPlace (d : Decimal) :
    ∃ c rest, writeInPlace [] d = c :: rest ∧ c.isDigit := by
  rcases d.writeInPlace_cases with ⟨n, _, htext⟩ | ⟨c, whole, fraction, hw, hf, htext, _⟩
  · obtain ⟨c, rest, hdigits⟩ :=
      List.exists_cons_of_ne_nil (Nat.toDigits_ne_nil (b := 10) (n := d.digits))
    refine ⟨c, rest ++ List.replicate n '0', ?_, ?_⟩
    · rw [htext, digitText, hdigits, List.cons_append]
    · exact isDigit_of_mem_digitText (d := d) (by rw [digitText, hdigits]; exact List.mem_cons_self)
  · exact ⟨c, whole ++ '.' :: fraction, htext, hw c List.mem_cons_self⟩

/-- **Writing in place keeps the value.** -/
theorem inUnits_ofPlain_writeInPlace (f : Format) (d : Decimal) :
    (ofPlain (writeInPlace [] d)).inUnits f = d.inUnits f := by
  rcases d.writeInPlace_cases with ⟨n, he, htext⟩ | ⟨c, whole, fraction, hw, hf, htext, hvalue, he⟩
  · have hdigits : ∀ x ∈ d.digitText ++ List.replicate n '0', x.isDigit := fun x hx =>
      (List.mem_append.mp hx).elim isDigit_of_mem_digitText isDigit_of_mem_zeros
    have hd : d = ⟨d.digits, 0 + (n : Int)⟩ := by rw [Int.zero_add, ← he]
    have hnumber :
        Nat.ofDigitChars 10 (d.digitText ++ List.replicate n '0') 0 = d.digits * 10 ^ n := by
      rw [Nat.ofDigitChars_append, Nat.ofDigitChars_replicate_zero, Nat.mul_comm, digitText,
        Nat.ofDigitChars_ten_toDigits]
    rw [htext, ofPlain_digits hdigits, hnumber, ← inUnits_refine, ← hd]
  · rw [htext, ofPlain_point hw hf, hvalue, he]

/-! ## The text of a magnitude -/

/-- The plain text of a single-precision magnitude. -/
def magnitudeText (magnitude : Nat) : List Char := Layout.plain.writeMagnitude .single magnitude

theorem magnitudeText_of_ne {m : Nat} (h : m ≠ 0) :
    magnitudeText m = writeInPlace [] (shortest .single m) := by
  rw [magnitudeText, Layout.writeMagnitude, if_neg h]
  rfl

theorem isPlain_magnitudeText (m : Nat) : IsPlain (magnitudeText m) := by
  rcases eq_or_ne m 0 with rfl | h
  · decide
  · rw [magnitudeText_of_ne h]
    exact isPlain_writeInPlace _

theorem exists_cons_magnitudeText (m : Nat) :
    ∃ c rest, magnitudeText m = c :: rest ∧ c.isDigit := by
  rcases eq_or_ne m 0 with rfl | h
  · exact ⟨'0', [], rfl, rfl⟩
  · rw [magnitudeText_of_ne h]
    exact exists_cons_writeInPlace _

theorem nearest_ofPlain_magnitudeText {m : Nat} (finite : m < Format.single.infinity) :
    (ofPlain (magnitudeText m)).nearest .single = m := by
  rcases eq_or_ne m 0 with rfl | h
  · have hzero : ofPlain (magnitudeText 0) = ⟨0, 0⟩ := by decide
    rw [hzero, nearest_zero Binary32.single_wide]
  · rw [magnitudeText_of_ne h,
      nearest_congr Binary32.single_wide (inUnits_ofPlain_writeInPlace _ _)]
    exact nearest_shortest Binary32.single_wide finite

/-- **The plain text of a finite magnitude is read as that magnitude.** -/
theorem read?_magnitudeText (m : Fin (255 * 2 ^ 23)) :
    Binary32.read? (magnitudeText m) = some (.finite false m) := by
  obtain ⟨c, rest, htext, hc⟩ := exists_cons_magnitudeText m
  rw [Binary32.read?_plain (isPlain_magnitudeText m) ⟨c, htext ▸ List.mem_cons_self, hc⟩,
    nearest_ofPlain_magnitudeText m.isLt, Binary32.ofMagnitude, dif_pos m.isLt]

end PocketCalc.Decimal
