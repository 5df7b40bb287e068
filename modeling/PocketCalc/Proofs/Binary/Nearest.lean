import Mathlib.Algebra.Order.Field.Rat
import Mathlib.Tactic.Linarith
import Mathlib.Tactic.LinearCombination
import Mathlib.Tactic.Ring
import PocketCalc.Binary.Format

/-!
# Rounding is correct

The values of a format's magnitudes grow with the pattern: each is one **gap** above the value
before it (`units_succ`). A magnitude **is nearest** to an exact value when no other is closer, and
where another is as close, its own pattern is even (`Format.IsNearest`). That says nothing of how a
nearest magnitude is found, and there is never more than one (`IsNearest.unique`).

**The law** (`nearest_spec`): `Format.nearest` answers the magnitude that is nearest to a ratio
among the patterns of all sizes, or `infinity` where that one is not below it.

The pattern below a ratio is read off the ratio's whole part (`bracket`): the patterns around it
are `2 ^ shift` units apart (`units_bracket`), so a choice between two multiples of
`2 ^ shift` is a choice between two neighbouring patterns.

**What it does not establish.** Which ratio a decimal or an operation hands over.
-/

namespace PocketCalc.Binary.Format

/-! ## Magnitudes and their gaps -/

/-- The units between a magnitude and the next one. -/
def gap (f : Format) (magnitude : Nat) : Nat := 2 ^ (magnitude / 2 ^ f.fraction - 1)

theorem gap_pos (f : Format) (m : Nat) : 0 < f.gap m := Nat.two_pow_pos _

theorem gap_of_lt {f : Format} {m : Nat} (h : m < 2 ^ f.fraction) : f.gap m = 1 := by
  rw [gap, Nat.div_eq_of_lt h, Nat.zero_sub, Nat.pow_zero]

theorem gap_binade {f : Format} {r : Nat} (q : Nat) (h : r < 2 ^ f.fraction) :
    f.gap ((q + 1) * 2 ^ f.fraction + r) = 2 ^ q := by
  rw [gap, Nat.add_comm, Nat.add_mul_div_right _ _ (Nat.two_pow_pos _), Nat.div_eq_of_lt h,
    Nat.zero_add, Nat.add_sub_cancel]

/-- **The values of a binade**: a leading one and a fraction, in steps of the binade's gap. -/
theorem units_binade {f : Format} {r : Nat} (q : Nat) (h : r < 2 ^ f.fraction) :
    f.units ((q + 1) * 2 ^ f.fraction + r) = (2 ^ f.fraction + r) * 2 ^ q := by
  have hp : 0 < 2 ^ f.fraction := Nat.two_pow_pos _
  cases q with
  | zero =>
    have small : (0 + 1) * 2 ^ f.fraction + r < 2 ^ (f.fraction + 1) := by
      rw [Nat.pow_succ]; omega
    rw [units_of_lt small, Nat.pow_zero, Nat.mul_one, Nat.zero_add, Nat.one_mul]
  | succ q =>
    have large : ¬ (q + 1 + 1) * 2 ^ f.fraction + r < 2 ^ (f.fraction + 1) := by
      rw [Nat.pow_succ, Nat.add_mul, Nat.add_mul]
      omega
    have hmod : ((q + 1 + 1) * 2 ^ f.fraction + r) % 2 ^ f.fraction = r := by
      rw [Nat.add_comm, Nat.add_mul_mod_self_right, Nat.mod_eq_of_lt h]
    have hgap := gap_binade (q + 1) h
    rw [gap] at hgap
    rw [units, if_neg large, hmod, hgap]

/-- A pattern lies below the first leading one, or in one of the binades above it. -/
theorem lt_or_eq_binade (f : Format) (m : Nat) :
    m < 2 ^ f.fraction ∨ ∃ q r, r < 2 ^ f.fraction ∧ m = (q + 1) * 2 ^ f.fraction + r := by
  have hp : 0 < 2 ^ f.fraction := Nat.two_pow_pos _
  rcases Nat.lt_or_ge m (2 ^ f.fraction) with small | large
  · exact .inl small
  · have hq : 1 ≤ m / 2 ^ f.fraction := (Nat.le_div_iff_mul_le hp).mpr (by omega)
    refine .inr ⟨m / 2 ^ f.fraction - 1, m % 2 ^ f.fraction, Nat.mod_lt _ hp, ?_⟩
    rw [Nat.sub_add_cancel hq, Nat.mul_comm, Nat.div_add_mod]

/-- **Each value is one gap above the value before it**, also across the end of a binade. -/
theorem units_succ (f : Format) (m : Nat) : f.units (m + 1) = f.units m + f.gap m := by
  have hp : 0 < 2 ^ f.fraction := Nat.two_pow_pos _
  rcases f.lt_or_eq_binade m with small | ⟨q, r, hr, rfl⟩
  · have hdouble : 2 ^ (f.fraction + 1) = 2 ^ f.fraction + 2 ^ f.fraction := by
      rw [Nat.pow_succ]; omega
    rw [gap_of_lt small, units_of_lt (by omega), units_of_lt (by omega)]
  · rw [units_binade q hr, gap_binade q hr]
    rcases Nat.lt_or_ge (r + 1) (2 ^ f.fraction) with inside | carry
    · rw [Nat.add_assoc, units_binade q inside, ← Nat.add_assoc, Nat.add_one_mul]
    · -- the carry lands on the first pattern of the next binade, whose gap is twice as wide
      have hnext : (q + 1) * 2 ^ f.fraction + r + 1 = (q + 1 + 1) * 2 ^ f.fraction + 0 := by
        rw [Nat.add_mul (q + 1) 1]; omega
      rw [hnext, units_binade (q + 1) hp, ← Nat.add_one_mul,
        show 2 ^ f.fraction + r + 1 = 2 * 2 ^ f.fraction by omega, Nat.pow_succ]
      ring

/-- **A larger pattern is a larger value.** -/
theorem units_strictMono (f : Format) : StrictMono f.units :=
  strictMono_nat_of_lt_succ fun m => by rw [units_succ]; exact Nat.lt_add_of_pos_right (f.gap_pos m)

@[simp]
theorem units_zero (f : Format) : f.units 0 = 0 := units_of_lt (Nat.two_pow_pos _)

theorem gap_le_units {f : Format} {m : Nat} (pos : 0 < m) : f.gap m ≤ f.units m := by
  rcases f.lt_or_eq_binade m with small | ⟨q, r, hr, rfl⟩
  · rw [gap_of_lt small, units_of_lt (Nat.lt_trans small (Nat.pow_lt_pow_succ (by decide)))]
    exact pos
  · rw [gap_binade q hr, units_binade q hr]
    exact Nat.le_mul_of_pos_left _ (Nat.add_pos_left (Nat.two_pow_pos _) _)

/-! ## Nearest magnitudes -/

/-- **The magnitude is nearest to an exact value**, given in units: no other is closer, and where
another is as close, this one's pattern is even. -/
structure IsNearest (f : Format) (x : ℚ) (magnitude : Nat) : Prop where
  closest : ∀ m, |x - f.units magnitude| ≤ |x - f.units m|
  even : ∀ m ≠ magnitude, |x - f.units magnitude| = |x - f.units m| → magnitude % 2 = 0

theorem cast_units_lt {f : Format} {a b : Nat} : (f.units a : ℚ) < f.units b ↔ a < b := by
  rw [Nat.cast_lt, f.units_strictMono.lt_iff_lt]

theorem cast_units_le {f : Format} {a b : Nat} : (f.units a : ℚ) ≤ f.units b ↔ a ≤ b := by
  rw [Nat.cast_le, f.units_strictMono.le_iff_le]

/-- No pattern up to `b` is closer than the distance down to `b`. -/
theorem sub_units_le_distance {f : Format} {m b : Nat} (x : ℚ) (h : m ≤ b) :
    x - f.units b ≤ |x - f.units m| :=
  le_trans (sub_le_sub_left (cast_units_le.mpr h) x) (le_abs_self _)

/-- No pattern from `b` on is closer than the distance up to `b`. -/
theorem units_sub_le_distance {f : Format} {m b : Nat} (x : ℚ) (h : b ≤ m) :
    f.units b - x ≤ |x - f.units m| := by
  rw [abs_sub_comm]
  exact le_trans (sub_le_sub_right (cast_units_le.mpr h) x) (le_abs_self _)

/-- The lower neighbour is nearest when the value is in the lower half of the gap, or in the middle
and the lower pattern is even. -/
theorem isNearest_below {f : Format} {x : ℚ} {b : Nat} (low : (f.units b : ℚ) ≤ x)
    (half : 2 * x ≤ f.units b + f.units (b + 1))
    (tie : 2 * x = f.units b + f.units (b + 1) → b % 2 = 0) : f.IsNearest x b := by
  have hself : |x - f.units b| = x - f.units b := abs_of_nonneg (by linarith)
  have hgap : (f.units b : ℚ) < f.units (b + 1) := cast_units_lt.mpr (Nat.lt_succ_self b)
  constructor
  · intro m
    rw [hself]
    rcases Nat.lt_or_ge b m with above | below
    · linarith [units_sub_le_distance (f := f) x above]
    · exact sub_units_le_distance x below
  · intro m hne heq
    rw [hself] at heq
    rcases Nat.lt_or_ge b m with above | below
    · have hm : (f.units (b + 1) : ℚ) ≤ f.units m := cast_units_le.mpr above
      rw [abs_sub_comm, abs_of_nonneg (by linarith)] at heq
      exact tie (by linarith)
    · have hm : (f.units m : ℚ) < f.units b := cast_units_lt.mpr (by omega)
      rw [abs_of_nonneg (by linarith)] at heq
      linarith

/-- The upper neighbour is nearest when the value is in the upper half of the gap, or in the middle
and the upper pattern is even. -/
theorem isNearest_above {f : Format} {x : ℚ} {b : Nat} (high : x ≤ f.units (b + 1))
    (half : f.units b + f.units (b + 1) ≤ 2 * x)
    (tie : 2 * x = f.units b + f.units (b + 1) → (b + 1) % 2 = 0) : f.IsNearest x (b + 1) := by
  have hself : |x - f.units (b + 1)| = f.units (b + 1) - x := by
    rw [abs_sub_comm]; exact abs_of_nonneg (by linarith)
  have hgap : (f.units b : ℚ) < f.units (b + 1) := cast_units_lt.mpr (Nat.lt_succ_self b)
  constructor
  · intro m
    rw [hself]
    rcases Nat.lt_or_ge b m with above | below
    · exact units_sub_le_distance x above
    · linarith [sub_units_le_distance (f := f) x below]
  · intro m hne heq
    rw [hself] at heq
    rcases Nat.lt_or_ge b m with above | below
    · have hm : (f.units (b + 1) : ℚ) < f.units m := cast_units_lt.mpr (by omega)
      rw [abs_sub_comm, abs_of_nonneg (by linarith)] at heq
      linarith
    · have hm : (f.units m : ℚ) ≤ f.units b := cast_units_le.mpr below
      rw [abs_of_nonneg (by linarith)] at heq
      exact tie (by linarith)

theorem isNearest_units (f : Format) (m : Nat) : f.IsNearest (f.units m) m := by
  have hgap : (f.units m : ℚ) < f.units (m + 1) := cast_units_lt.mpr (Nat.lt_succ_self m)
  exact isNearest_below le_rfl (by linarith) fun h => by linarith

namespace IsNearest

variable {f : Format} {x y : ℚ} {m n : Nat}

theorem le_half (h : f.IsNearest x m) : 2 * x ≤ f.units m + f.units (m + 1) := by
  have hgap : (f.units m : ℚ) < f.units (m + 1) := cast_units_lt.mpr (Nat.lt_succ_self m)
  have hclose := h.closest (m + 1)
  by_contra hlt
  rcases le_total x (f.units (m + 1)) with inside | beyond
  · rw [abs_of_nonneg (by linarith), abs_sub_comm, abs_of_nonneg (by linarith)] at hclose
    linarith
  · rw [abs_of_nonneg (by linarith), abs_of_nonneg (by linarith)] at hclose
    linarith

theorem half_le (h : f.IsNearest x (m + 1)) : f.units m + f.units (m + 1) ≤ 2 * x := by
  have hgap : (f.units m : ℚ) < f.units (m + 1) := cast_units_lt.mpr (Nat.lt_succ_self m)
  have hclose := h.closest m
  by_contra hlt
  rcases le_total (f.units m : ℚ) x with inside | beyond
  · rw [abs_sub_comm, abs_of_nonneg (by linarith), abs_of_nonneg (by linarith)] at hclose
    linarith
  · rw [abs_sub_comm, abs_of_nonneg (by linarith), abs_sub_comm, abs_of_nonneg (by linarith)]
      at hclose
    linarith

/-- **Rounding keeps the order**: a larger value is not nearest to a smaller magnitude. -/
theorem mono (hx : f.IsNearest x m) (hy : f.IsNearest y n) (le : x ≤ y) : m ≤ n := by
  by_contra hlt
  obtain ⟨b, rfl⟩ : ∃ b, m = b + 1 := ⟨m - 1, by omega⟩
  have hn : (f.units n : ℚ) ≤ f.units b := cast_units_le.mpr (by omega)
  have hn' : (f.units (n + 1) : ℚ) ≤ f.units (b + 1) := cast_units_le.mpr (by omega)
  have hxb := hx.half_le
  have hyn := hy.le_half
  -- both values are the middle of the same gap, and of its two ends one is odd
  have hbn : (f.units b : ℚ) = f.units n := by linarith
  have hb : b = n := f.units_strictMono.injective (Nat.cast_injective hbn)
  subst hb
  have hmid : 2 * x = f.units b + f.units (b + 1) := by linarith
  have hyx : y = x := by linarith
  have hgap : (f.units b : ℚ) < f.units (b + 1) := cast_units_lt.mpr (Nat.lt_succ_self b)
  have hdist : |x - f.units (b + 1)| = |x - f.units b| := by
    rw [abs_sub_comm, abs_of_nonneg (by linarith), abs_of_nonneg (by linarith)]
    linarith
  have heven := hx.even b (by omega) hdist
  have heven' := hy.even (b + 1) (by omega) (by rw [hyx, hdist])
  omega

/-- **No exact value has two nearest magnitudes.** -/
theorem unique (hm : f.IsNearest x m) (hn : f.IsNearest x n) : m = n :=
  Nat.le_antisymm (hm.mono hn le_rfl) (hn.mono hm le_rfl)

end IsNearest

/-! ## What `nearest` computes -/

/-- The shift of the grid around a ratio. -/
def shift (f : Format) (num den : Nat) : Nat := (num / den).log2 - f.fraction

/-- The pattern below a ratio: whole steps of the grid, behind the patterns of the binades below. -/
def bracket (f : Format) (num den : Nat) : Nat :=
  f.shift num den * 2 ^ f.fraction + num / (den * 2 ^ f.shift num den)

/-- The steps below a ratio leave `fraction + 1` bits, except in the first binades. -/
theorem bracket_cases (f : Format) (num den : Nat) :
    (f.shift num den = 0 ∧ num / (den * 2 ^ f.shift num den) < 2 ^ f.fraction) ∨
      ∃ r < 2 ^ f.fraction, num / (den * 2 ^ f.shift num den) = 2 ^ f.fraction + r := by
  rw [← Nat.div_div_eq_div_mul]
  have hlt : num / den < 2 ^ ((num / den).log2 + 1) := Nat.lt_log2_self
  rcases Nat.eq_zero_or_pos (num / den) with zero | pos
  · refine .inl ⟨?_, ?_⟩
    · rw [shift, zero, Nat.log2_zero, Nat.zero_sub]
    · rw [zero, Nat.zero_div]; exact Nat.two_pow_pos _
  have hle : 2 ^ (num / den).log2 ≤ num / den := Nat.log2_self_le (by omega)
  rcases Nat.lt_or_ge (num / den).log2 f.fraction with small | large
  · refine .inl ⟨by rw [shift]; omega, ?_⟩
    rw [shift, show (num / den).log2 - f.fraction = 0 by omega, Nat.pow_zero, Nat.div_one]
    exact Nat.lt_of_lt_of_le hlt (Nat.pow_le_pow_right (by decide) small)
  · have hsplit : (num / den).log2 = f.fraction + f.shift num den := by rw [shift]; omega
    rw [hsplit, Nat.pow_add] at hle
    rw [hsplit, Nat.pow_succ, Nat.pow_add] at hlt
    have hs : 0 < 2 ^ f.shift num den := Nat.two_pow_pos _
    have low : 2 ^ f.fraction ≤ num / den / 2 ^ f.shift num den :=
      (Nat.le_div_iff_mul_le hs).mpr hle
    have high : num / den / 2 ^ f.shift num den < 2 ^ f.fraction * 2 :=
      Nat.div_lt_of_lt_mul (by linarith)
    exact .inr ⟨num / den / 2 ^ f.shift num den - 2 ^ f.fraction, by omega, by omega⟩

/-- **The patterns around a ratio are a grid step apart**, and lie on the grid. -/
theorem units_bracket (f : Format) (num den : Nat) :
    f.units (f.bracket num den) =
        num / (den * 2 ^ f.shift num den) * 2 ^ f.shift num den ∧
      f.gap (f.bracket num den) = 2 ^ f.shift num den := by
  rcases f.bracket_cases num den with ⟨hs, hlt⟩ | ⟨r, hr, hbelow⟩
  · have hb : f.bracket num den = num / (den * 2 ^ f.shift num den) := by
      rw [bracket, hs, Nat.zero_mul, Nat.zero_add]
    rw [hb, gap_of_lt hlt, units_of_lt (Nat.lt_trans hlt (Nat.pow_lt_pow_succ (by decide))), hs]
    exact ⟨(Nat.mul_one _).symm, rfl⟩
  · have hb : f.bracket num den = (f.shift num den + 1) * 2 ^ f.fraction + r := by
      rw [bracket, hbelow, Nat.add_one_mul, Nat.add_assoc]
    rw [hb, hbelow, units_binade _ hr, gap_binade _ hr]
    exact ⟨rfl, rfl⟩

theorem bracket_mod_two {f : Format} (wide : 0 < f.fraction) (num den : Nat) :
    f.bracket num den % 2 = num / (den * 2 ^ f.shift num den) % 2 := by
  obtain ⟨p, hp⟩ : ∃ p, f.fraction = p + 1 := ⟨f.fraction - 1, by omega⟩
  rw [bracket, hp, Nat.pow_succ, ← Nat.mul_assoc, Nat.add_comm, Nat.add_mul_mod_self_right]

/-- `nearest` chooses between the pattern below the ratio and the next one. -/
theorem nearest_eq_bracket (f : Format) (num den : Nat) :
    f.nearest num den = min f.infinity
      (if den * 2 ^ f.shift num den < 2 * (num % (den * 2 ^ f.shift num den)) ∨
          (den * 2 ^ f.shift num den = 2 * (num % (den * 2 ^ f.shift num den)) ∧
            num / (den * 2 ^ f.shift num den) % 2 = 1)
        then f.bracket num den + 1 else f.bracket num den) := by
  change min f.infinity (f.shift num den * 2 ^ f.fraction + ite _ _ _) = _
  congr 1
  split
  next up => exact (if_pos up).symm
  next down => exact (if_neg down).symm

/-- **Rounding is correct**: the answer is the magnitude nearest to the ratio, or `infinity` where
that magnitude is not below it. -/
theorem nearest_spec {f : Format} (wide : 0 < f.fraction) (num : Nat) {den : Nat} (hden : 0 < den) :
    ∃ m, f.IsNearest (num / den : ℚ) m ∧ f.nearest num den = min f.infinity m := by
  obtain ⟨hunits, hgap⟩ := f.units_bracket num den
  have hsucc := f.units_succ (f.bracket num den)
  rw [hgap, hunits] at hsucc
  have hstep : 0 < den * 2 ^ f.shift num den := Nat.mul_pos hden (Nat.two_pow_pos _)
  have hsplit := Nat.div_add_mod num (den * 2 ^ f.shift num den)
  have hrest := Nat.mod_lt num hstep
  rw [nearest_eq_bracket, ← bracket_mod_two wide]
  generalize f.bracket num den = b at *
  generalize 2 ^ f.shift num den = g at *
  generalize num / (den * g) = below at *
  generalize num % (den * g) = rest at *
  -- the ratio is `below` steps of the grid and `rest / den` units more
  have hd : (0 : ℚ) < den := Nat.cast_pos.mpr hden
  have hx : (num / den : ℚ) * den = below * g * den + rest := by
    rw [div_mul_cancel₀ _ hd.ne', ← hsplit]; push_cast; ring
  have hb : (f.units b : ℚ) * den = below * g * den := by rw [hunits]; push_cast; ring
  have hb' : (f.units (b + 1) : ℚ) * den = below * g * den + den * g := by
    rw [hsucc]; push_cast; ring
  generalize (num / den : ℚ) = x at *
  split
  next up =>
    have hup : (den * g : ℚ) ≤ 2 * rest := by
      have : den * g ≤ 2 * rest := by omega
      exact_mod_cast this
    have hlt : (rest : ℚ) ≤ den * g := by exact_mod_cast hrest.le
    refine ⟨b + 1, isNearest_above ?_ ?_ ?_, rfl⟩
    · exact le_of_mul_le_mul_right (by linarith) hd
    · exact le_of_mul_le_mul_right (by linarith) hd
    · intro tie
      have : (den * g : ℚ) = 2 * rest := by linear_combination (-den : ℚ) * tie + 2 * hx - hb - hb'
      have : den * g = 2 * rest := by exact_mod_cast this
      omega
  next down =>
    have hdown : (2 * rest : ℚ) ≤ den * g := by
      have : 2 * rest ≤ den * g := by omega
      exact_mod_cast this
    refine ⟨b, isNearest_below ?_ ?_ ?_, rfl⟩
    · exact le_of_mul_le_mul_right (by linarith [Nat.cast_nonneg (α := ℚ) rest]) hd
    · exact le_of_mul_le_mul_right (by linarith) hd
    · intro tie
      have : (den * g : ℚ) = 2 * rest := by linear_combination (-den : ℚ) * tie + 2 * hx - hb - hb'
      have : den * g = 2 * rest := by exact_mod_cast this
      omega

end PocketCalc.Binary.Format
