import PocketCalc.Reduction

/-!
# How a reduction ends

Reducing operands ends with a finite number, or with one of few reasons. A reduction that has
operands never complains that it has none (`reduce_error_cases`), and the percent key, which has no
rule, never gives a number (`ne_percent_of_reduce_eq_ok`).

**What it does not establish.** Which operands end in which way.
-/

namespace PocketCalc.Reduction

theorem inRange_eq_ok {x y : Binary32} (h : inRange x = .ok y) : x = y ∧ y.isFinite := by
  unfold inRange at h
  split at h
  next finite => cases h; exact ⟨rfl, finite⟩
  next => cases h

theorem inRange_eq_error {x : Binary32} {e : ReduceError} (h : inRange x = .error e) :
    e = .outOfRange := by
  unfold inRange at h
  split at h
  · cases h
  · cases h; rfl

theorem reduce_of_rule {op : Operator} {apply : List Binary32 → Except ReduceError Binary32}
    (h : rule op = some apply) (operands : List Binary32) :
    reduce op operands = apply operands >>= inRange := by
  rw [reduce, h]

/-- A number is answered only by a rule, and only if it is in range. -/
theorem reduce_eq_ok {op : Operator} {operands : List Binary32} {x : Binary32}
    (h : reduce op operands = .ok x) :
    ∃ apply, rule op = some apply ∧ apply operands = .ok x ∧ x.isFinite := by
  cases hrule : rule op with
  | none => rw [reduce, hrule] at h; cases h
  | some apply =>
    rw [reduce_of_rule hrule] at h
    cases hanswer : apply operands with
    | error e => rw [hanswer] at h; cases h
    | ok y =>
      rw [hanswer] at h
      obtain ⟨rfl, finite⟩ := inRange_eq_ok h
      exact ⟨apply, rfl, hanswer, finite⟩

theorem isFinite_of_reduce_eq_ok {op : Operator} {operands : List Binary32} {x : Binary32}
    (h : reduce op operands = .ok x) : x.isFinite := by
  obtain ⟨_, _, _, finite⟩ := reduce_eq_ok h
  exact finite

theorem ne_percent_of_reduce_eq_ok {op : Operator} {operands : List Binary32} {x : Binary32}
    (h : reduce op operands = .ok x) : op ≠ .percent := by
  rintro rfl
  obtain ⟨_, hrule, _⟩ := reduce_eq_ok h
  cases hrule

/-- A division only ever stops at a zero. -/
theorem foldlM_divideBy_error {first : Binary32} {rest : List Binary32} {e : ReduceError}
    (h : rest.foldlM divideBy first = .error e) : e = .divisionByZero := by
  induction rest generalizing first with
  | nil => cases h
  | cons divisor rest ih =>
    rw [List.foldlM_cons] at h
    by_cases zero : divisor.isZero
    · rw [divideBy, if_pos zero] at h
      cases h
      rfl
    · rw [divideBy, if_neg zero] at h
      exact ih h

/-- **The reasons a reduction of operands can end with.** -/
theorem reduce_error_cases {op : Operator} {operands : List Binary32} {e : ReduceError}
    (some : operands ≠ []) (h : reduce op operands = .error e) :
    e = .divisionByZero ∨ e = .unsupportedOperator '%' ∨ e = .outOfRange := by
  obtain ⟨first, rest, rfl⟩ := List.exists_cons_of_ne_nil some
  cases op with
  | add => exact .inr (.inr (inRange_eq_error h))
  | subtract => exact .inr (.inr (inRange_eq_error h))
  | multiply => exact .inr (.inr (inRange_eq_error h))
  | divide =>
    rw [reduce_of_rule rfl, quotient] at h
    cases hfold : rest.foldlM divideBy first with
    | error e' =>
      rw [hfold] at h
      cases h
      exact .inl (foldlM_divideBy_error hfold)
    | ok x =>
      rw [hfold] at h
      exact .inr (.inr (inRange_eq_error h))
  | percent => cases h; exact .inr (.inl rfl)

end PocketCalc.Reduction
