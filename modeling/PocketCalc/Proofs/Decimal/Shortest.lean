import Mathlib.Algebra.Order.Field.Power
import Mathlib.Tactic.FieldSimp
import PocketCalc.Decimal.Layout
import PocketCalc.Proofs.Binary.Nearest

/-!
# The shortest decimal reads back, and none is shorter

The exact value of a decimal is a number of a format's units (`inUnits`). `Decimal.nearest` rounds
that value and nothing else of the decimal (`nearest_congr`), and it keeps the order
(`nearest_mono`). So of the decimals on one grid that round to a magnitude, the two around the
magnitude's own value are the only ones that `onGrid` has to look at (`nearest_ne_of_onGrid`).

**The laws** of `shortest`, for every finite magnitude but zero: the decimal is read back
(`nearest_shortest`), no decimal on a coarser grid is (`exponent_le_shortest`), and no decimal that
is read back has fewer digits (`length_digitText_shortest_le`).
-/

namespace PocketCalc.Decimal

open Binary (Format)

/-- **The exact value of a decimal**, in units of a format. -/
def inUnits (f : Format) (d : Decimal) : ℚ := d.digits * 10 ^ d.exponent * 2 ^ f.scale

/-- The exact value is a ratio of whole numbers, as `nearest` takes it. -/
theorem inUnits_eq_div (f : Format) (d : Decimal) :
    d.inUnits f = (d.digits * 10 ^ d.exponent.toNat * 2 ^ f.scale : Nat) /
      (10 ^ (-d.exponent).toNat : Nat) := by
  rw [inUnits]
  push_cast
  rcases Int.le_total 0 d.exponent with pos | neg
  · obtain ⟨n, hn⟩ := Int.eq_ofNat_of_zero_le pos
    simp [hn]
  · obtain ⟨n, hn⟩ := Int.eq_ofNat_of_zero_le (Int.neg_nonneg_of_nonpos neg)
    have he : d.exponent = -(n : Int) := by omega
    simp only [he, zpow_neg, zpow_natCast, neg_neg, Int.toNat_natCast, Int.toNat_neg_natCast,
      pow_zero]
    ring

theorem inUnits_nonneg (f : Format) (d : Decimal) : 0 ≤ d.inUnits f := by
  rw [inUnits]; positivity

theorem inUnits_le {f : Format} {m n : Nat} (e : Int) (h : m ≤ n) :
    inUnits f ⟨m, e⟩ ≤ inUnits f ⟨n, e⟩ := by
  have : (m : ℚ) ≤ n := Nat.cast_le.mpr h
  rw [inUnits, inUnits]
  gcongr

/-- **The grids are nested**: a step of a grid is a whole number of steps of each finer one. -/
theorem inUnits_refine (f : Format) (n k : Nat) (e : Int) :
    inUnits f ⟨n, e + k⟩ = inUnits f ⟨n * 10 ^ k, e⟩ := by
  rw [inUnits, inUnits, zpow_add₀ (by norm_num), zpow_natCast]
  push_cast
  ring

/-! ## Rounding a decimal -/

/-- **A decimal is rounded correctly**: to the magnitude nearest to its exact value, or to
`infinity` where that one is not below it. -/
theorem nearest_isNearest {f : Format} (wide : 0 < f.fraction) (d : Decimal) :
    ∃ m, f.IsNearest (d.inUnits f) m ∧ d.nearest f = min f.infinity m := by
  have hden : 0 < 10 ^ (-d.exponent).toNat := Nat.pow_pos (by decide)
  obtain ⟨m, hm, h⟩ :=
    Format.nearest_spec wide (d.digits * 10 ^ d.exponent.toNat * 2 ^ f.scale) hden
  rw [← inUnits_eq_div] at hm
  exact ⟨m, hm, h⟩

theorem nearest_mono {f : Format} (wide : 0 < f.fraction) {c d : Decimal}
    (h : c.inUnits f ≤ d.inUnits f) : c.nearest f ≤ d.nearest f := by
  obtain ⟨m, hm, hc⟩ := nearest_isNearest wide c
  obtain ⟨n, hn, hd⟩ := nearest_isNearest wide d
  have := hm.mono hn h
  rw [hc, hd]
  omega

/-- **Only the value of a decimal counts.** -/
theorem nearest_congr {f : Format} (wide : 0 < f.fraction) {c d : Decimal}
    (h : c.inUnits f = d.inUnits f) : c.nearest f = d.nearest f :=
  Nat.le_antisymm (nearest_mono wide h.le) (nearest_mono wide h.ge)

theorem nearest_of_inUnits_eq {f : Format} (wide : 0 < f.fraction) {d : Decimal} {m : Nat}
    (hm : m ≤ f.infinity) (h : d.inUnits f = f.units m) : d.nearest f = m := by
  obtain ⟨n, hn, hd⟩ := nearest_isNearest wide d
  have hnm : n = m := hn.unique (h ▸ f.isNearest_units m)
  rw [hd]
  omega

theorem nearest_le_of_inUnits_le {f : Format} (wide : 0 < f.fraction) {d : Decimal} {m : Nat}
    (h : d.inUnits f ≤ f.units m) : d.nearest f ≤ m := by
  obtain ⟨n, hn, hd⟩ := nearest_isNearest wide d
  have := hn.mono (f.isNearest_units m) h
  rw [hd]
  omega

theorem le_nearest_of_le_inUnits {f : Format} (wide : 0 < f.fraction) {d : Decimal} {m : Nat}
    (hm : m ≤ f.infinity) (h : f.units m ≤ d.inUnits f) : m ≤ d.nearest f := by
  obtain ⟨n, hn, hd⟩ := nearest_isNearest wide d
  have := (f.isNearest_units m).mono hn h
  rw [hd]
  omega

/-- Less than half a unit is rounded to zero. -/
theorem nearest_eq_zero {f : Format} (wide : 0 < f.fraction) {d : Decimal}
    (h : 2 * d.inUnits f < 1) : d.nearest f = 0 := by
  obtain ⟨n, hn, hd⟩ := nearest_isNearest wide d
  have hone : f.units 1 = 1 := Format.units_of_lt (Nat.one_lt_two_pow (by omega))
  have hzero : f.IsNearest (d.inUnits f) 0 := by
    refine Format.isNearest_below ?_ ?_ fun _ => rfl
    · rw [Format.units_zero]; exact_mod_cast inUnits_nonneg f d
    · rw [Format.units_zero, hone]; push_cast; linarith
  rw [hd, hn.unique hzero, Nat.min_zero]

theorem nearest_zero {f : Format} (wide : 0 < f.fraction) (e : Int) : nearest f ⟨0, e⟩ = 0 :=
  nearest_eq_zero wide (by rw [inUnits, Nat.cast_zero, zero_mul, zero_mul]; norm_num)

/-! ## One grid -/

/-- **The value of a magnitude lies between the two neighbours on a grid.** -/
theorem inUnits_below (f : Format) (u : Nat) (e : Int) :
    inUnits f ⟨(Place.of f u e).below, e⟩ ≤ u ∧ u < inUnits f ⟨(Place.of f u e).below + 1, e⟩ := by
  have hden : 0 < 2 ^ f.scale * 10 ^ e.toNat := by positivity
  have hlow := Nat.div_mul_le_self (u * 10 ^ (-e).toNat) (2 ^ f.scale * 10 ^ e.toNat)
  have hhigh := Nat.lt_div_mul_add (a := u * 10 ^ (-e).toNat) hden
  have hbelow : (Place.of f u e).below =
    u * 10 ^ (-e).toNat / (2 ^ f.scale * 10 ^ e.toNat) := rfl
  rw [← hbelow] at hlow hhigh
  generalize (Place.of f u e).below = b at *
  have hp : (0 : ℚ) < (10 ^ (-e).toNat : Nat) := by positivity
  rw [inUnits_eq_div, inUnits_eq_div, div_le_iff₀ hp, lt_div_iff₀ hp]
  constructor
  · have : b * 10 ^ e.toNat * 2 ^ f.scale ≤ u * 10 ^ (-e).toNat := by linarith
    exact_mod_cast this
  · have : u * 10 ^ (-e).toNat < (b + 1) * 10 ^ e.toNat * 2 ^ f.scale := by linarith
    exact_mod_cast this

/-- **A grid whose two neighbours fail has no decimal at all** that is read back. -/
theorem nearest_ne_of_onGrid {f : Format} (wide : 0 < f.fraction) {m : Nat} {e : Int}
    (hm : m ≤ f.infinity) (h : onGrid f m e = none) (n : Nat) : nearest f ⟨n, e⟩ ≠ m := by
  obtain ⟨hlow, hhigh⟩ := inUnits_below f (f.units m) e
  simp only [onGrid] at h
  generalize Place.of f (f.units m) e = place at *
  obtain ⟨hlower, hupper⟩ :
      nearest f ⟨place.below, e⟩ ≠ m ∧ nearest f ⟨place.below + 1, e⟩ ≠ m := by
    grind
  rcases Nat.lt_or_ge place.below n with above | below
  · intro heq
    refine hupper (Nat.le_antisymm ?_ (le_nearest_of_le_inUnits wide hm hhigh.le))
    exact heq ▸ nearest_mono wide (inUnits_le e above)
  · intro heq
    refine hlower (Nat.le_antisymm (nearest_le_of_inUnits_le wide hlow) ?_)
    exact heq ▸ nearest_mono wide (inUnits_le e below)

theorem exponent_of_onGrid {f : Format} {m : Nat} {e : Int} {d : Decimal}
    (h : onGrid f m e = some d) : d.exponent = e := by
  simp only [onGrid] at h
  split at h
  · cases h; rfl
  · split at h
    · cases h; rfl
    · cases h

/-- **On the finest grid every value has a step of its own.** -/
theorem inUnits_finest (f : Format) (u : Nat) :
    inUnits f ⟨(Place.of f u (-f.scale)).below, -f.scale⟩ = u := by
  have hten : (10 : Nat) ^ f.scale = 5 ^ f.scale * 2 ^ f.scale := by rw [← Nat.mul_pow]
  have hbelow : (Place.of f u (-f.scale)).below = u * 5 ^ f.scale := by
    simp only [Place.of, Int.neg_neg, Int.toNat_natCast, Int.toNat_neg_natCast, Nat.pow_zero,
      Nat.mul_one]
    rw [hten, ← Nat.mul_assoc, Nat.mul_div_cancel _ (Nat.two_pow_pos _)]
  have hten' : (10 : ℚ) ^ f.scale = 5 ^ f.scale * 2 ^ f.scale := by exact_mod_cast hten
  rw [hbelow, inUnits, zpow_neg, zpow_natCast, hten']
  push_cast
  field_simp

/-! ## The walk over the grids -/

/-- **The walk ends on a decimal that is read back.** -/
theorem nearest_walk {f : Format} (wide : 0 < f.fraction) {m : Nat} (hm : m ≤ f.infinity)
    (steps : Nat) : ∀ {e : Int}, e - steps = -f.scale → (walk f m steps e).nearest f = m := by
  induction steps with
  | zero =>
    intro e he
    obtain rfl : e = -f.scale := by omega
    exact nearest_of_inUnits_eq wide hm (inUnits_finest f (f.units m))
  | succ steps ih =>
    intro e he
    rw [walk]
    cases h : onGrid f m e with
    | some d => exact nearest_of_onGrid h
    | none => exact ih (by omega)

/-- **The walk passes no grid that has a decimal** which is read back. -/
theorem nearest_ne_of_walk {f : Format} (wide : 0 < f.fraction) {m : Nat} (hm : m ≤ f.infinity)
    (steps n : Nat) {e e' : Int} (passed : (walk f m steps e).exponent < e') (le : e' ≤ e) :
    nearest f ⟨n, e'⟩ ≠ m := by
  induction steps generalizing e with
  | zero => exact absurd passed (Int.not_lt.mpr le)
  | succ steps ih =>
    rw [walk] at passed
    cases h : onGrid f m e with
    | some d =>
      rw [h, Option.getD_some, exponent_of_onGrid h] at passed
      omega
    | none =>
      rw [h, Option.getD_none] at passed
      rcases Int.lt_or_eq_of_le le with lt | rfl
      · exact ih passed (by omega)
      · exact nearest_ne_of_onGrid wide hm h n

/-! ## The shortest decimal -/

/-- The value of a magnitude lies below the first step of the first grid. -/
theorem units_lt_wholeDigits (f : Format) (m : Nat) :
    f.units m < inUnits f ⟨1, wholeDigits f m⟩ := by
  have hs : 0 < 2 ^ f.scale := Nat.two_pow_pos _
  have key : f.units m < 10 ^ wholeDigits f m * 2 ^ f.scale := by
    rw [← Nat.div_lt_iff_lt_mul hs]
    simp only [wholeDigits]
    split
    next zero => rw [zero, Nat.pow_zero]; exact Nat.zero_lt_one
    next => exact (Nat.length_toDigits_le_iff (by decide) Nat.length_toDigits_pos).mp le_rfl
  rw [inUnits, zpow_natCast]
  push_cast
  rw [one_mul]
  exact_mod_cast key

theorem isNearest_of_nearest_eq {f : Format} (wide : 0 < f.fraction) {d : Decimal} {m : Nat}
    (finite : m < f.infinity) (h : d.nearest f = m) : f.IsNearest (d.inUnits f) m := by
  obtain ⟨k, hk, hd⟩ := nearest_isNearest wide d
  obtain rfl : k = m := by omega
  exact hk

/-- A decimal that is rounded to a finite magnitude is at most half as large again. -/
theorem inUnits_le_of_nearest_eq {f : Format} (wide : 0 < f.fraction) {d : Decimal} {m : Nat}
    (pos : 0 < m) (finite : m < f.infinity) (h : d.nearest f = m) :
    2 * d.inUnits f ≤ 3 * f.units m := by
  have hhalf := (isNearest_of_nearest_eq wide finite h).le_half
  have hgap : (f.gap m : ℚ) ≤ f.units m := Nat.cast_le.mpr (Format.gap_le_units pos)
  rw [f.units_succ] at hhalf
  push_cast at hhalf
  linarith

theorem digits_pos_of_nearest_eq {f : Format} (wide : 0 < f.fraction) {d : Decimal} {m : Nat}
    (pos : 0 < m) (h : d.nearest f = m) : 0 < d.digits := by
  rcases Nat.eq_zero_or_pos d.digits with zero | some
  · obtain ⟨n, e⟩ := d
    obtain rfl : n = 0 := zero
    rw [nearest_zero wide] at h
    omega
  · exact some

section Shortest

variable {f : Format} (wide : 0 < f.fraction) {m : Nat} (pos : 0 < m) (finite : m < f.infinity)
include wide finite

/-- **The shortest decimal is read back.** -/
theorem nearest_shortest : (shortest f m).nearest f = m :=
  nearest_walk wide finite.le _ (by push_cast; omega)

include pos

/-- **No decimal on a coarser grid is read back.** -/
theorem exponent_le_shortest {d : Decimal} (h : d.nearest f = m) :
    d.exponent ≤ (shortest f m).exponent := by
  by_contra coarser
  rcases Int.lt_or_le (wholeDigits f m) d.exponent with beyond | walked
  · -- above the first grid even one step is ten times the value
    have hlt := units_lt_wholeDigits f m
    have hle := inUnits_le_of_nearest_eq wide pos finite h
    obtain ⟨k, hk⟩ : ∃ k : Nat, d.exponent = wholeDigits f m + ((k + 1 : Nat) : Int) :=
      ⟨(d.exponent - wholeDigits f m - 1).toNat, by omega⟩
    have hstep : 10 * inUnits f ⟨1, wholeDigits f m⟩ ≤ d.inUnits f := by
      have hd : d.inUnits f = inUnits f ⟨d.digits * 10 ^ (k + 1), wholeDigits f m⟩ := by
        rw [← inUnits_refine, ← hk]
      have hten : 10 * inUnits f ⟨1, wholeDigits f m⟩ = inUnits f ⟨10, wholeDigits f m⟩ := by
        simp only [inUnits]; push_cast; ring
      rw [hd, hten]
      refine inUnits_le _ ?_
      have hdigits := digits_pos_of_nearest_eq wide pos h
      calc 10 ≤ 10 ^ (k + 1) := Nat.le_self_pow (by omega) 10
        _ ≤ d.digits * 10 ^ (k + 1) := Nat.le_mul_of_pos_left _ hdigits
    have hpos : (0 : ℚ) ≤ f.units m := Nat.cast_nonneg _
    linarith
  · exact nearest_ne_of_walk wide finite.le _ d.digits (Int.not_le.mp coarser) walked h

/-- **No decimal that is read back has fewer digits.** -/
theorem length_digitText_shortest_le {d : Decimal} (h : d.nearest f = m) :
    (shortest f m).digitText.length ≤ d.digitText.length := by
  by_contra fewer
  have hself := nearest_shortest wide finite
  have hle := exponent_le_shortest wide pos finite h
  have hcoarsest := fun c : Decimal => exponent_le_shortest (d := c) wide pos finite
  generalize shortest f m = s at *
  have hone : 0 < d.digitText.length := Nat.length_toDigits_pos
  obtain ⟨k, hk⟩ : ∃ k, s.digitText.length = k + 1 + 1 := ⟨s.digitText.length - 2, by omega⟩
  obtain ⟨j, hj⟩ : ∃ j : Nat, s.exponent = d.exponent + j :=
    ⟨(s.exponent - d.exponent).toNat, by omega⟩
  have hs : 10 ^ (k + 1) ≤ s.digits := by
    by_contra hlt
    have := (Nat.length_toDigits_le_iff (b := 10) (by decide) (Nat.succ_pos k)).mpr
      (Nat.not_le.mp hlt)
    rw [digitText] at hk
    omega
  have hd : d.digits < 10 ^ (k + 1) :=
    (Nat.length_toDigits_le_iff (b := 10) (by decide) (Nat.succ_pos k)).mp
      (Nat.le_of_lt_succ (lt_of_lt_of_eq (Nat.not_le.mp fewer) hk))
  -- the power of ten between the two has one digit, and lies on a coarser grid
  have hupper : inUnits f ⟨1, s.exponent + (k + 1 : Nat)⟩ ≤ s.inUnits f := by
    rw [inUnits_refine]
    exact inUnits_le _ (by omega)
  have hlower : d.inUnits f ≤ inUnits f ⟨1, s.exponent + (k + 1 : Nat)⟩ := by
    rw [inUnits_refine, hj, inUnits_refine]
    refine inUnits_le _ ?_
    calc d.digits ≤ 1 * 10 ^ (k + 1) := by omega
      _ ≤ 1 * 10 ^ (k + 1) * 10 ^ j := Nat.le_mul_of_pos_right _ (Nat.pow_pos (by decide))
  have hpower : nearest f ⟨1, s.exponent + (k + 1 : Nat)⟩ = m :=
    Nat.le_antisymm (hself ▸ nearest_mono wide hupper) (h ▸ nearest_mono wide hlower)
  have := hcoarsest _ hpower
  simp only at this
  omega

end Shortest

end PocketCalc.Decimal
