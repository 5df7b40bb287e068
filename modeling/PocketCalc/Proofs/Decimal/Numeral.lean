import Mathlib.Data.List.TakeWhile
import PocketCalc.Decimal.Numeral
import PocketCalc.Proofs.Decimal.Shortest

/-!
# Numerals are read correctly

A **plain text** is made of digits with at most one point among them: what a digit key and the point
key can type into one run. With a digit in it, it is a numeral without sign and exponent, and it
writes a decimal (`Decimal.ofPlain`).

**The law** (`read?_plain`): a plain text with a digit is read as the number whose magnitude is that
of the decimal it writes. The two shortcuts for far-out powers of ten never change it
(`magnitude_eq_nearest`), so with `Decimal.nearest_isNearest` reading is rounding, once, to nearest.

**What it does not establish.** Numerals with a sign, a power of ten or a name in them.
-/

namespace PocketCalc

open Binary (Format)

/-! ## Digits -/

theorem digit_sub_lt {c : Char} (h : c.isDigit) : c.toNat - '0'.toNat < 10 := by
  have := Char.isDigit_iff_toNat.mp h
  have zero : '0'.toNat = 48 := rfl
  have nine : '9'.toNat = 57 := rfl
  omega

theorem digit_sub_pos {c : Char} (h : c.isDigit) (hne : c ≠ '0') : 0 < c.toNat - '0'.toNat := by
  have hbounds := Char.isDigit_iff_toNat.mp h
  have hne' : c.toNat ≠ '0'.toNat := fun heq => hne (Char.toNat_inj.mp heq)
  omega

/-- Digits write a number with no more digits than themselves. -/
theorem ofDigitChars_lt {digits : List Char} (h : ∀ c ∈ digits, c.isDigit) :
    Nat.ofDigitChars 10 digits 0 < 10 ^ digits.length := by
  induction digits with
  | nil => exact Nat.zero_lt_one
  | cons c rest ih =>
    have hc := digit_sub_lt (h c List.mem_cons_self)
    have hrest := ih fun d hd => h d (List.mem_cons_of_mem _ hd)
    have hstep := Nat.mul_le_mul_left (10 ^ rest.length) (Nat.le_of_lt_succ hc)
    rw [Nat.ofDigitChars_cons, Nat.ofDigitChars_eq_ofDigitChars_zero, List.length_cons,
      Nat.pow_succ, Nat.mul_zero, Nat.zero_add]
    omega

/-- Digits that do not begin with a zero write a number with no fewer digits. -/
theorem le_ofDigitChars {c : Char} {rest : List Char} (h : c.isDigit) (hne : c ≠ '0') :
    10 ^ rest.length ≤ Nat.ofDigitChars 10 (c :: rest) 0 := by
  have hc := digit_sub_pos h hne
  rw [Nat.ofDigitChars_cons, Nat.ofDigitChars_eq_ofDigitChars_zero, Nat.mul_zero, Nat.zero_add]
  exact Nat.le_trans (Nat.le_mul_of_pos_right _ hc) (Nat.le_add_right _ _)

/-- Leading zeros do not count. -/
theorem ofDigitChars_dropZeros (digits : List Char) :
    Nat.ofDigitChars 10 (digits.dropWhile (· = '0')) 0 = Nat.ofDigitChars 10 digits 0 := by
  induction digits with
  | nil => rfl
  | cons c rest ih =>
    rw [List.dropWhile_cons]
    split
    next zero =>
      obtain rfl : c = '0' := of_decide_eq_true zero
      rw [ih, Nat.ofDigitChars_cons, Nat.sub_self]
    next => rfl

/-! ## The shortcuts -/

namespace Decimal

/-- A decimal whose first digit stands past the power `scale` is beyond every finite value. -/
theorem nearest_eq_infinity {f : Format} (wide : 0 < f.fraction)
    (bounded : f.units f.infinity ≤ 10 ^ f.scale * 2 ^ f.scale) {n k : Nat} {e : Int}
    (low : 10 ^ k ≤ n) (beyond : f.scale ≤ k + e) : nearest f ⟨n, e⟩ = f.infinity := by
  obtain ⟨j, hj⟩ : ∃ j : Nat, e + k = f.scale + j := ⟨(e + k - f.scale).toNat, by omega⟩
  have hpower : inUnits f ⟨10 ^ k, e⟩ = 10 ^ j * (10 ^ f.scale * 2 ^ f.scale) := by
    rw [← Nat.one_mul (10 ^ k), ← inUnits_refine, inUnits, hj, zpow_add₀ (by norm_num),
      zpow_natCast, zpow_natCast]
    push_cast
    ring
  refine Nat.le_antisymm (Format.nearest_le_infinity _ _ _)
    (le_nearest_of_le_inUnits wide le_rfl ?_)
  calc (f.units f.infinity : ℚ) ≤ 10 ^ f.scale * 2 ^ f.scale := by exact_mod_cast bounded
    _ ≤ 10 ^ j * (10 ^ f.scale * 2 ^ f.scale) :=
      le_mul_of_one_le_left (by positivity) (one_le_pow₀ (by norm_num))
    _ = inUnits f ⟨10 ^ k, e⟩ := hpower.symm
    _ ≤ inUnits f ⟨n, e⟩ := inUnits_le e low

/-- A decimal whose first digit stands below the power `-scale` is nearer to zero than to any other
value. -/
theorem nearest_eq_zero_of_lt {f : Format} (wide : 0 < f.fraction) {n k : Nat} {e : Int}
    (high : n < 10 ^ k) (tiny : k + e < -(f.scale : Int)) : nearest f ⟨n, e⟩ = 0 := by
  obtain ⟨j, hj⟩ : ∃ j : Nat, e + k = -(f.scale + 1 + j : Nat) :=
    ⟨(-(f.scale : Int) - 1 - (e + k)).toNat, by omega⟩
  have hpower : inUnits f ⟨10 ^ k, e⟩ * 10 ^ (f.scale + 1 + j) = 2 ^ f.scale := by
    rw [← Nat.one_mul (10 ^ k), ← inUnits_refine, inUnits, hj, zpow_neg, zpow_natCast]
    push_cast
    field_simp
  have hpow : (2 : ℚ) ^ f.scale * 10 ≤ 10 ^ (f.scale + 1 + j) := by
    calc (2 : ℚ) ^ f.scale * 10 ≤ 10 ^ f.scale * 10 := by gcongr; norm_num
      _ = 10 ^ (f.scale + 1) := (pow_succ ..).symm
      _ ≤ 10 ^ (f.scale + 1 + j) := pow_le_pow_right₀ (by norm_num) (Nat.le_add_right _ _)
  have hp : (0 : ℚ) < 10 ^ (f.scale + 1 + j) := by positivity
  -- below a tenth of a unit
  have htenth : inUnits f ⟨10 ^ k, e⟩ * 10 ≤ 1 := by
    refine le_of_mul_le_mul_right ?_ hp
    linarith
  have hle := inUnits_le (f := f) e high.le
  exact nearest_eq_zero wide (by linarith)

end Decimal

namespace Numeral

/-- **The shortcuts change nothing**: digits that do not begin with a zero have the magnitude of the
decimal they write, in every format whose finite values end below `10 ^ scale`. -/
theorem magnitude_eq_nearest {f : Format} (wide : 0 < f.fraction)
    (bounded : f.units f.infinity ≤ 10 ^ f.scale * 2 ^ f.scale) {digits : List Char}
    (decimal : ∀ c ∈ digits, c.isDigit) (head : digits.head? ≠ some '0') (e : Int) :
    magnitude f digits e = Decimal.nearest f ⟨Nat.ofDigitChars 10 digits 0, e⟩ := by
  cases digits with
  | nil =>
    rw [Nat.ofDigitChars_nil, Decimal.nearest_zero wide]
    rfl
  | cons c rest =>
    have hlow : 10 ^ rest.length ≤ Nat.ofDigitChars 10 (c :: rest) 0 :=
      le_ofDigitChars (decimal c List.mem_cons_self) fun h => head (by rw [h]; rfl)
    have hhigh := ofDigitChars_lt decimal
    have hlength : (c :: rest).length = rest.length + 1 := rfl
    simp only [magnitude, List.isEmpty_cons, Bool.false_eq_true, if_false]
    split
    next beyond => exact (Decimal.nearest_eq_infinity wide bounded hlow (by omega)).symm
    next =>
      split
      next tiny => exact (Decimal.nearest_eq_zero_of_lt wide hhigh tiny).symm
      next => rfl

/-! ## Plain texts -/

/-- **A plain text**: digits, and at most one point among them. -/
def IsPlain (text : List Char) : Prop :=
  (∀ c ∈ text, c.isDigit ∨ c = '.') ∧ text.count '.' ≤ 1

instance : DecidablePred IsPlain := fun text =>
  @instDecidableAnd _ _ (text.decidableBAll fun c => c.isDigit ∨ c = '.') (Nat.decLe _ _)

theorem ne_point_of_isDigit {c : Char} (h : c.isDigit) : c ≠ '.' := by
  rintro rfl
  exact absurd h (by decide)

theorem point_not_mem_of_digits {text : List Char} (h : ∀ c ∈ text, c.isDigit) : '.' ∉ text := by
  intro hmem
  exact ne_point_of_isDigit (h _ hmem) rfl

theorem isPlain_of_digits {text : List Char} (h : ∀ c ∈ text, c.isDigit) : IsPlain text := by
  have none := List.count_eq_zero.mpr (point_not_mem_of_digits h)
  exact ⟨fun c hc => .inl (h c hc), none ▸ Nat.zero_le 1⟩

theorem isPlain_point {whole fraction : List Char} (hw : ∀ c ∈ whole, c.isDigit)
    (hf : ∀ c ∈ fraction, c.isDigit) : IsPlain (whole ++ '.' :: fraction) := by
  constructor
  · intro c hc
    rcases List.mem_append.mp hc with front | back
    · exact .inl (hw c front)
    · rcases List.mem_cons.mp back with rfl | rest
      · exact .inr rfl
      · exact .inl (hf c rest)
  · rw [List.count_append, List.count_cons_self,
      List.count_eq_zero.mpr (point_not_mem_of_digits hw),
      List.count_eq_zero.mpr (point_not_mem_of_digits hf)]

/-- **A plain text is digits, or digits on both sides of a point.** -/
theorem isPlain_iff {text : List Char} :
    IsPlain text ↔ (∀ c ∈ text, c.isDigit) ∨
      ∃ whole fraction, (∀ c ∈ whole, c.isDigit) ∧ (∀ c ∈ fraction, c.isDigit) ∧
        text = whole ++ '.' :: fraction := by
  constructor
  · rintro ⟨chars, point⟩
    by_cases hmem : '.' ∈ text
    · obtain ⟨whole, fraction, rfl⟩ := List.append_of_mem hmem
      have digit : ∀ {c}, c ∈ whole ++ '.' :: fraction → c ≠ '.' → c.isDigit := fun hc hne =>
        (chars _ hc).resolve_right hne
      rw [List.count_append, List.count_cons_self] at point
      have hw : '.' ∉ whole := List.count_eq_zero.mp (by omega)
      have hf : '.' ∉ fraction := List.count_eq_zero.mp (by omega)
      refine .inr ⟨whole, fraction, ?_, ?_, rfl⟩
      · intro c hc
        exact digit (List.mem_append_left _ hc) fun h => hw (h ▸ hc)
      · intro c hc
        exact digit (List.mem_append_right _ (List.mem_cons_of_mem _ hc)) fun h => hf (h ▸ hc)
    · refine .inl ?_
      intro c hc
      exact (chars c hc).resolve_right fun h => hmem (h ▸ hc)
  · rintro (digits | ⟨whole, fraction, hw, hf, rfl⟩)
    · exact isPlain_of_digits digits
    · exact isPlain_point hw hf

end Numeral

/-- **The decimal that a plain text writes**: all its digits, and as many places as stand behind its
point. -/
def Decimal.ofPlain (text : List Char) : Decimal where
  digits := Nat.ofDigitChars 10 (text.filter Char.isDigit) 0
  exponent := -(((text.dropWhile Char.isDigit).drop 1).length : Int)

namespace Decimal

theorem ofPlain_digits {text : List Char} (h : ∀ c ∈ text, c.isDigit) :
    ofPlain text = ⟨Nat.ofDigitChars 10 text 0, 0⟩ := by
  have hrest : text.dropWhile Char.isDigit = [] := List.dropWhile_eq_nil_iff.mpr h
  rw [ofPlain, List.filter_eq_self.mpr h, hrest]
  rfl

theorem ofPlain_point {whole fraction : List Char} (hw : ∀ c ∈ whole, c.isDigit)
    (hf : ∀ c ∈ fraction, c.isDigit) :
    ofPlain (whole ++ '.' :: fraction) =
      ⟨Nat.ofDigitChars 10 (whole ++ fraction) 0, -(fraction.length : Int)⟩ := by
  have hpoint : ¬ ('.' : Char).isDigit := by decide
  rw [ofPlain, List.filter_append, List.filter_eq_self.mpr hw, List.filter_cons_of_neg hpoint,
    List.filter_eq_self.mpr hf, List.dropWhile_append_of_pos hw, List.dropWhile_cons_of_neg hpoint]
  rfl

theorem ofPlain_append_point {text : List Char} (h : ∀ c ∈ text, c.isDigit) :
    ofPlain (text ++ ['.']) = ofPlain text := by
  rw [ofPlain_point h (List.forall_mem_nil _), ofPlain_digits h, List.append_nil]
  rfl

/-- **A digit more** shifts the digits that a plain text writes. Behind the point it is one place
more as well. -/
theorem ofPlain_append_digit {text : List Char} (h : Numeral.IsPlain text) {c : Char}
    (hc : c.isDigit) :
    ofPlain (text ++ [c]) =
      ⟨10 * (ofPlain text).digits + (c.toNat - '0'.toNat),
        if '.' ∈ text then (ofPlain text).exponent - 1 else (ofPlain text).exponent⟩ := by
  have digits : ∀ {t : List Char}, (∀ d ∈ t, d.isDigit) → ∀ d ∈ t ++ [c], d.isDigit := by
    intro t ht d hd
    rcases List.mem_append.mp hd with old | new
    · exact ht d old
    · rw [List.mem_singleton.mp new]
      exact hc
  rcases Numeral.isPlain_iff.mp h with ht | ⟨whole, fraction, hw, hf, rfl⟩
  · rw [ofPlain_digits (digits ht), ofPlain_digits ht, Nat.ofDigitChars_append,
      if_neg (Numeral.point_not_mem_of_digits ht)]
    rfl
  · have hpoint : '.' ∈ whole ++ '.' :: fraction :=
      List.mem_append_right _ List.mem_cons_self
    rw [List.append_assoc, List.cons_append, ofPlain_point hw (digits hf), ofPlain_point hw hf,
      ← List.append_assoc, Nat.ofDigitChars_append, if_pos hpoint, List.length_append,
      List.length_singleton]
    have hlength : -((fraction.length + 1 : Nat) : Int) = -(fraction.length : Int) - 1 := by omega
    rw [hlength]
    rfl

end Decimal

/-! ## Reading -/

namespace Numeral

theorem readDecimal_digits (negative : Bool) {text : List Char} (h : ∀ c ∈ text, c.isDigit)
    (ne : text ≠ []) :
    readDecimal negative text = some (.decimal negative (text.dropWhile (· = '0')) 0) := by
  have hrest : text.dropWhile Char.isDigit = [] := List.dropWhile_eq_nil_iff.mpr h
  have hne : ¬ text.isEmpty := by rwa [List.isEmpty_iff]
  rw [readDecimal, hrest, List.takeWhile_eq_self_iff.mpr h]
  simp only [List.append_nil, hne]
  rfl

theorem readDecimal_point (negative : Bool) {whole fraction : List Char}
    (hw : ∀ c ∈ whole, c.isDigit) (hf : ∀ c ∈ fraction, c.isDigit) (ne : whole ++ fraction ≠ []) :
    readDecimal negative (whole ++ '.' :: fraction) =
      some (.decimal negative ((whole ++ fraction).dropWhile (· = '0'))
        (-(fraction.length : Int))) := by
  have hpoint : ¬ ('.' : Char).isDigit := by decide
  have hrest : fraction.dropWhile Char.isDigit = [] := List.dropWhile_eq_nil_iff.mpr hf
  have hne : ¬ (whole ++ fraction).isEmpty := by rwa [List.isEmpty_iff]
  rw [readDecimal, List.takeWhile_append_of_pos hw, List.dropWhile_append_of_pos hw,
    List.takeWhile_cons_of_neg hpoint, List.dropWhile_cons_of_neg hpoint, List.append_nil]
  simp only [hrest, List.takeWhile_eq_self_iff.mpr hf, hne]
  rw [← Int.zero_sub]
  rfl

/-- The digits of a numeral are digits, and do not begin with a zero. -/
theorem digits_of_readDecimal {text digits : List Char} {sign negative : Bool} {e : Int}
    (h : readDecimal sign text = some (.decimal negative digits e)) :
    (∀ c ∈ digits, c.isDigit) ∧ digits.head? ≠ some '0' := by
  have drop : ∀ {all : List Char}, (∀ c ∈ all, c.isDigit) →
      (∀ c ∈ all.dropWhile (· = '0'), c.isDigit) ∧ (all.dropWhile (· = '0')).head? ≠ some '0' := by
    intro all hall
    constructor
    · intro c hc
      exact hall c ((List.dropWhile_sublist _).subset hc)
    intro zero
    have hnot := List.head?_dropWhile_not (fun c : Char => decide (c = '0')) all
    rw [zero] at hnot
    exact absurd hnot (by decide)
  have taken : ∀ {t : List Char}, ∀ c ∈ t.takeWhile Char.isDigit, c.isDigit := fun c hc =>
    List.all_eq_true.mp List.all_takeWhile c hc
  simp only [readDecimal] at h
  split at h
  · split at h
    · cases h
    · obtain ⟨power, _, heq⟩ := Option.bind_eq_some_iff.mp h
      cases heq
      exact drop fun c hc => (List.mem_append.mp hc).elim (taken c) (taken c)
  · split at h
    · cases h
    · obtain ⟨power, _, heq⟩ := Option.bind_eq_some_iff.mp h
      cases heq
      exact drop fun c hc => taken c (by rwa [List.append_nil] at hc)

theorem digits_of_read? {text digits : List Char} {negative : Bool} {e : Int}
    (h : read? text = some (.decimal negative digits e)) :
    (∀ c ∈ digits, c.isDigit) ∧ digits.head? ≠ some '0' := by
  simp only [read?] at h
  split at h
  · cases h
  · split at h
    · cases h
    · exact digits_of_readDecimal h

/-- A text that begins with a digit or the point has no sign. -/
theorem splitSign_of_plain {text : List Char} (h : IsPlain text) :
    splitSign text = (false, text) := by
  rw [splitSign.eq_def]
  split
  · exact absurd (h.1 '-' List.mem_cons_self) (by decide)
  · exact absurd (h.1 '+' List.mem_cons_self) (by decide)
  · rfl

/-- A plain text has no letters, so it is no name. -/
theorem map_toLower_of_plain {text : List Char} (h : IsPlain text) :
    text.map Char.toLower = text := by
  conv => rhs; rw [← List.map_id text]
  apply List.map_congr_left
  intro c hc
  rcases h.1 c hc with digit | rfl
  · have hbounds := Char.isDigit_iff_toNat.mp digit
    have hle : ¬ (c.val ≥ 'A'.val ∧ c.val ≤ 'Z'.val) := by
      rw [ge_iff_le, UInt32.le_iff_toNat_le]
      have hA : 'A'.val.toNat = 65 := rfl
      have nine : '9'.toNat = 57 := rfl
      have hc : c.toNat = c.val.toNat := rfl
      omega
    exact dif_neg hle
  · rfl

theorem ofList_ne_of_plain {text : List Char} (h : IsPlain text) (name : String) {c : Char}
    (mem : c ∈ name.toList) (letter : ¬ (c.isDigit ∨ c = '.')) : String.ofList text ≠ name := by
  rintro rfl
  rw [String.toList_ofList] at mem
  exact letter (h.1 c mem)

/-- **A plain text with a digit is a numeral** without sign and power of ten. -/
theorem read?_of_plain {text : List Char} (h : IsPlain text) (digit : ∃ c ∈ text, c.isDigit) :
    read? text = some (.decimal false ((text.filter Char.isDigit).dropWhile (· = '0'))
      (Decimal.ofPlain text).exponent) := by
  have hinf := ofList_ne_of_plain h "inf" (c := 'i') (by decide) (by decide)
  have hinfinity := ofList_ne_of_plain h "infinity" (c := 'i') (by decide) (by decide)
  have hnan := ofList_ne_of_plain h "nan" (c := 'n') (by decide) (by decide)
  simp only [read?, splitSign_of_plain h, map_toLower_of_plain h, hinf, hinfinity, hnan, or_self,
    if_false]
  obtain ⟨c, hc, hdigit⟩ := digit
  rcases isPlain_iff.mp h with digits | ⟨whole, fraction, hw, hf, rfl⟩
  · rw [readDecimal_digits false digits (List.ne_nil_of_mem hc), Decimal.ofPlain_digits digits,
      List.filter_eq_self.mpr digits]
  · have hpoint : ¬ ('.' : Char).isDigit := by decide
    have hmem : c ∈ whole ++ fraction := by
      rw [List.mem_append, List.mem_cons] at hc
      rw [List.mem_append]
      exact hc.imp_right fun h => h.resolve_left fun h => hpoint (h ▸ hdigit)
    rw [readDecimal_point false hw hf (List.ne_nil_of_mem hmem), Decimal.ofPlain_point hw hf,
      List.filter_append, List.filter_cons_of_neg hpoint, List.filter_eq_self.mpr hw,
      List.filter_eq_self.mpr hf]

end Numeral

namespace Binary32

open Numeral (IsPlain)

theorem single_wide : 0 < Format.single.fraction := by decide

/-- The finite values of single precision end far below `10 ^ 149`. -/
theorem single_bounded :
    Format.single.units Format.single.infinity ≤
      10 ^ Format.single.scale * 2 ^ Format.single.scale := by
  have hunits : Format.single.units Format.single.infinity = (2 ^ 23 + 0) * 2 ^ 254 :=
    Format.units_binade (f := .single) 254 (Nat.two_pow_pos _)
  rw [hunits]
  norm_num [Format.single]

/-- **Reading is rounding**: every text that is a decimal numeral is read as the number under its
sign whose magnitude is that of the decimal it writes. -/
theorem read?_decimal {text digits : List Char} {negative : Bool} {e : Int}
    (h : Numeral.read? text = some (.decimal negative digits e)) :
    read? text = some (.ofMagnitude negative
      (Decimal.nearest .single ⟨Nat.ofDigitChars 10 digits 0, e⟩)) := by
  obtain ⟨decimal, head⟩ := Numeral.digits_of_read? h
  rw [read?, h, Option.map_some, Numeral.toBinary32,
    Numeral.magnitude_eq_nearest single_wide single_bounded decimal head]

theorem read?_plain {text : List Char} (h : IsPlain text) (digit : ∃ c ∈ text, c.isDigit) :
    read? text = some (.ofMagnitude false ((Decimal.ofPlain text).nearest .single)) := by
  rw [read?_decimal (Numeral.read?_of_plain h digit), ofDigitChars_dropZeros]
  rfl

end Binary32

end PocketCalc
