import PocketCalc.Binary.Single
import PocketCalc.Proofs.Binary.Nearest

/-!
# Single-precision arithmetic

A value that a magnitude has is rounded to that magnitude (`Binary32.round_units`). So negative zero
is an exact unit of addition and one is an exact unit of multiplication, on infinities and on the
undefined value as well (`Binary32.negativeZero_add`, `Binary32.one_mul`).

**The law** of the operations: a finite answer comes of finite operands (`isFinite_of_add`,
`isFinite_of_sub`, `isFinite_of_mul`). Division alone forgets an infinity, and only behind its sign:
a finite answer comes of a finite dividend (`isFinite_of_div`), but a finite number by an infinity
is zero (`finite_div_infinite`).
-/

namespace PocketCalc.Binary32

open Binary (Format)

/-! ## Rounding -/

/-- **Rounding keeps what is exact**: the value of a finite magnitude is rounded to it. -/
theorem round_units (negative : Bool) (m : Fin (255 * 2 ^ 23)) {den : Nat} (pos : 0 < den) :
    round negative (Format.single.units m * den) den = .finite negative m := by
  obtain ⟨n, hn, hnearest⟩ :=
    Format.nearest_spec (f := .single) (by decide) (Format.single.units m * den) pos
  have hvalue : ((Format.single.units m * den : Nat) / den : ℚ) = Format.single.units m := by
    rw [Nat.cast_mul, mul_div_cancel_right₀ _ (Nat.cast_ne_zero.mpr pos.ne')]
  rw [hvalue] at hn
  have hm : n = m := hn.unique (Format.isNearest_units _ _)
  have hlt : (m : Nat) < Format.single.infinity := m.isLt
  rw [round, hnearest, hm, Nat.min_eq_right hlt.le, ofMagnitude, dif_pos m.isLt]

theorem units_eq_zero_iff {m : Nat} : Format.single.units m = 0 ↔ m = 0 := by
  rw [← Format.units_zero .single]
  exact (Format.units_strictMono .single).injective.eq_iff

/-! ## Units -/

/-- **Negative zero is a unit of addition**, also for the zeros themselves. -/
theorem negativeZero_add (x : Binary32) : zero true + x = x := by
  cases x with
  | finite negative m =>
    show add (zero true) (.finite negative m) = _
    have hzero : signedUnits true 0 = 0 := by decide
    simp only [add, zero, hzero, Int.zero_add, Bool.true_and]
    split
    next none =>
      have hm : (m : Nat) = 0 := by
        rw [← units_eq_zero_iff]
        unfold signedUnits at none
        split at none <;> omega
      exact congrArg _ (Fin.ext hm.symm)
    next some =>
      have hsign : decide (signedUnits negative m < 0) = negative := by
        cases negative with
        | false => simp [signedUnits]
        | true =>
          simp only [signedUnits, if_true] at some ⊢
          exact decide_eq_true (by omega)
      have habs : (signedUnits negative m).natAbs = Format.single.units m * 1 := by
        cases negative <;> simp [signedUnits]
      rw [hsign, habs, round_units negative m Nat.one_pos]
  | _ => rfl

/-- **One is a unit of multiplication.** -/
theorem one_mul (x : Binary32) : one * x = x := by
  cases x with
  | nan => rfl
  | infinite negative => cases negative <;> rfl
  | finite negative m =>
    have hone : Format.single.units (127 * 2 ^ 23) = 2 ^ Format.single.scale := by decide
    show round (false ^^ negative) (Format.single.units (127 * 2 ^ 23) * Format.single.units m)
      (2 ^ Format.single.scale) = _
    rw [hone, Nat.mul_comm, Bool.false_xor, round_units negative m (Nat.two_pow_pos _)]

/-! ## Classes -/

theorem isZero_iff {x : Binary32} : x.isZero ↔ ∃ negative, x = zero negative := by
  constructor
  · intro h
    cases x with
    | finite negative m => exact ⟨negative, congrArg _ (Fin.ext (of_decide_eq_true h))⟩
    | _ => cases h
  · rintro ⟨negative, rfl⟩
    rfl

/-- What is not finite is infinite or undefined. -/
theorem isFinite_eq_false_iff {x : Binary32} :
    x.isFinite = false ↔ x = .nan ∨ ∃ negative, x = .infinite negative := by
  cases x with
  | nan => exact ⟨fun _ => .inl rfl, fun _ => rfl⟩
  | infinite negative => exact ⟨fun _ => .inr ⟨negative, rfl⟩, fun _ => rfl⟩
  | finite => simp [isFinite]

/-! ## Finite answers -/

theorem isFinite_neg (x : Binary32) : (-x).isFinite = x.isFinite := by cases x <;> rfl

/-- **A finite sum has finite terms.** -/
theorem isFinite_of_add {x y : Binary32} (h : (x + y).isFinite) : x.isFinite ∧ y.isFinite := by
  change (add x y).isFinite at h
  cases x with
  | nan => cases h
  | infinite s =>
    cases y with
    | nan => cases h
    | infinite t =>
      rw [add] at h
      split at h <;> cases h
    | finite => cases h
  | finite s a =>
    cases y with
    | finite t b => exact ⟨rfl, rfl⟩
    | _ => cases h

theorem isFinite_of_sub {x y : Binary32} (h : (x - y).isFinite) : x.isFinite ∧ y.isFinite := by
  have := isFinite_of_add (x := x) (y := -y) h
  rwa [isFinite_neg] at this

/-- **A finite product has finite factors.** -/
theorem isFinite_of_mul {x y : Binary32} (h : (x * y).isFinite) : x.isFinite ∧ y.isFinite := by
  change (mul x y).isFinite at h
  cases x with
  | nan => cases h
  | infinite s =>
    cases y with
    | finite t b =>
      rw [mul] at h
      split at h <;> cases h
    | _ => cases h
  | finite s a =>
    cases y with
    | finite t b => exact ⟨rfl, rfl⟩
    | infinite t =>
      rw [mul] at h
      split at h <;> cases h
    | nan => cases h

/-- **A finite quotient has a finite dividend.** -/
theorem isFinite_of_div {x y : Binary32} (h : (x / y).isFinite) : x.isFinite := by
  change (div x y).isFinite at h
  cases x with
  | finite => rfl
  | _ => cases y <;> cases h

/-- A finite number by an infinity is zero. -/
theorem finite_div_infinite (s t : Bool) (m : Fin (255 * 2 ^ 23)) :
    Binary32.finite s m / .infinite t = zero (s ^^ t) := rfl

end PocketCalc.Binary32
