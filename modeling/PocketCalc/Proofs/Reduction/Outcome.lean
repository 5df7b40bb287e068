import PocketCalc.Proofs.Binary.Single
import PocketCalc.Proofs.Reduction

/-!
# Which operands end in which way

A reduction is refused in three places: for want of a rule, before the operands are looked at; by
the rule, where it has no operand to begin with or meets a zero to divide by; and at the end, if the
number is infinite or undefined. What is left is the **left fold** of the operands
(`Reduction.leftFold?`), in which no step is refused.

A division stops at a zero wherever that stands and whatever the quotient has become before it
(`Reduction.foldlM_divideBy_of_zero`), and without a zero it is the left fold
(`Reduction.foldlM_divideBy_of_nonzero`).

**The law** (`Reduction.reduce_ends`): each reason is given under a condition on the operator and
the operands alone, and the conditions exclude each other.
-/

namespace PocketCalc.Reduction

/-! ## Conditions on the operands -/

/-- **The left fold of the operands**, each step rounded: from negative zero for a sum, from one for
a product, otherwise from the first operand. -/
def leftFold? : Operator → List Binary32 → Option Binary32
  | .add, operands => some (operands.foldl (· + ·) (Binary32.zero true))
  | .subtract, first :: rest => some (rest.foldl (· - ·) first)
  | .multiply, operands => some (operands.foldl (· * ·) Binary32.one)
  | .divide, first :: rest => some (rest.foldl (· / ·) first)
  | _, _ => none

/-- **No operand to begin with**, where the operator needs one. -/
def LacksFirst (op : Operator) (operands : List Binary32) : Prop :=
  (op = .subtract ∨ op = .divide) ∧ operands = []

/-- **A zero to divide by**, of either sign, anywhere behind the first operand. -/
def DividesByZero (op : Operator) (operands : List Binary32) : Prop :=
  op = .divide ∧ ∃ negative, Binary32.zero negative ∈ operands.tail

/-! ## Divisions -/

variable {op : Operator} {operands : List Binary32} {x : Binary32}

/-- **A zero is met**, whatever the quotient has become by then. -/
theorem foldlM_divideBy_of_zero {first : Binary32} {rest : List Binary32} {negative : Bool}
    (zero : Binary32.zero negative ∈ rest) :
    rest.foldlM divideBy first = .error .divisionByZero := by
  induction rest generalizing first with
  | nil => cases zero
  | cons divisor rest ih =>
    rw [List.foldlM_cons, divideBy]
    split
    next => rfl
    next nonzero =>
      refine ih ((List.mem_cons.mp zero).resolve_left ?_)
      rintro rfl
      exact nonzero rfl

/-- **Without a zero nothing is refused** on the way. -/
theorem foldlM_divideBy_of_nonzero {first : Binary32} {rest : List Binary32}
    (nonzero : ¬ ∃ negative, Binary32.zero negative ∈ rest) :
    rest.foldlM divideBy first = .ok (rest.foldl (· / ·) first) := by
  induction rest generalizing first with
  | nil => rfl
  | cons divisor rest ih =>
    have divides : ¬ divisor.isZero := by
      rw [Binary32.isZero_iff]
      rintro ⟨negative, rfl⟩
      exact nonzero ⟨negative, List.mem_cons_self⟩
    have hrest : ¬ ∃ negative, Binary32.zero negative ∈ rest := by
      rintro ⟨negative, mem⟩
      exact nonzero ⟨negative, List.mem_cons_of_mem _ mem⟩
    rw [List.foldlM_cons, divideBy, if_neg divides]
    exact ih hrest

/-! ## Reductions -/

theorem reduce_of_lacksFirst (h : LacksFirst op operands) :
    reduce op operands = .error (.emptyOperands op) := by
  obtain ⟨rfl | rfl, rfl⟩ := h <;> rfl

theorem reduce_of_dividesByZero (h : DividesByZero op operands) :
    reduce op operands = .error .divisionByZero := by
  obtain ⟨rfl, negative, zero⟩ := h
  cases operands with
  | nil => cases zero
  | cons first rest =>
    have met : rest.foldlM divideBy first = .error .divisionByZero := foldlM_divideBy_of_zero zero
    rw [reduce_of_rule rfl, quotient, met]
    rfl

/-- **What no rule refuses** is the left fold, if that can be shown. -/
theorem reduce_of_leftFold? (h : leftFold? op operands = some x)
    (nonzero : ¬ DividesByZero op operands) : reduce op operands = inRange x := by
  cases op with
  | divide =>
    cases operands with
    | nil => cases h
    | cons first rest =>
      cases h
      have none : ¬ ∃ negative, Binary32.zero negative ∈ rest := fun zero => nonzero ⟨rfl, zero⟩
      rw [reduce_of_rule rfl, quotient, foldlM_divideBy_of_nonzero none]
      rfl
  | subtract =>
    cases operands with
    | nil => cases h
    | cons first rest => cases h; rfl
  | percent => cases h
  | _ => cases h; rfl

/-- There is a left fold wherever there is a rule, and a number to begin with. -/
theorem leftFold?_eq_none_iff :
    leftFold? op operands = none ↔ op = .percent ∨ LacksFirst op operands := by
  cases op <;> cases operands <;> simp [leftFold?, LacksFirst]

/-- **The ways in which a reduction ends.** -/
inductive Ending (op : Operator) (operands : List Binary32) :
    Except ReduceError Binary32 → Prop where
  | noRule : op = .percent → Ending op operands (.error (.unsupportedOperator '%'))
  | noFirst : LacksFirst op operands → Ending op operands (.error (.emptyOperands op))
  | byZero : DividesByZero op operands → Ending op operands (.error .divisionByZero)
  | outOfRange {x : Binary32} : leftFold? op operands = some x → ¬ DividesByZero op operands →
      x.isFinite = false → Ending op operands (.error .outOfRange)
  | number {x : Binary32} : leftFold? op operands = some x → ¬ DividesByZero op operands →
      x.isFinite → Ending op operands (.ok x)

/-- **Every reduction ends in one of them.** -/
theorem reduce_ending (op : Operator) (operands : List Binary32) :
    Ending op operands (reduce op operands) := by
  by_cases zero : DividesByZero op operands
  · rw [reduce_of_dividesByZero zero]
    exact .byZero zero
  cases fold : leftFold? op operands with
  | none =>
    rcases leftFold?_eq_none_iff.mp fold with rfl | lacks
    · exact .noRule rfl
    · rw [reduce_of_lacksFirst lacks]
      exact .noFirst lacks
  | some x =>
    rw [reduce_of_leftFold? fold zero, inRange]
    split
    next finite => exact .number fold zero finite
    next infinite => exact .outOfRange fold zero (Bool.eq_false_of_not_eq_true infinite)

/-- **And in no other.** -/
theorem reduce_eq_iff {answer : Except ReduceError Binary32} :
    reduce op operands = answer ↔ Ending op operands answer := by
  constructor
  · rintro rfl
    exact reduce_ending op operands
  · intro h
    cases h with
    | noRule percent => rw [percent]; rfl
    | noFirst lacks => exact reduce_of_lacksFirst lacks
    | byZero zero => exact reduce_of_dividesByZero zero
    | outOfRange fold nonzero infinite =>
      rw [reduce_of_leftFold? fold nonzero, inRange, if_neg (by rw [infinite]; decide)]
    | number fold nonzero finite =>
      rw [reduce_of_leftFold? fold nonzero, inRange, if_pos finite]

/-- **How every reduction ends.** It has no rule for percent; a difference or a quotient of nothing
lacks an operand; a quotient meets a zero wherever one stands behind the first operand, also where
it has become infinite or undefined before. In all other cases it comes to the left fold of the
operands, which is out of range if it is infinite or undefined. -/
theorem reduce_ends (op : Operator) (operands : List Binary32) :
    (reduce op operands = .error (.unsupportedOperator '%') ↔ op = .percent) ∧
      (reduce op operands = .error (.emptyOperands op) ↔ LacksFirst op operands) ∧
      (reduce op operands = .error .divisionByZero ↔ DividesByZero op operands) ∧
      (op ≠ .percent → ¬ LacksFirst op operands → ¬ DividesByZero op operands →
        ∃ x, leftFold? op operands = some x ∧
          (reduce op operands = .error .outOfRange ↔
            x = .nan ∨ ∃ negative, x = .infinite negative) ∧
          (reduce op operands = .ok x ↔ x.isFinite)) := by
  simp only [reduce_eq_iff, ← Binary32.isFinite_eq_false_iff]
  refine ⟨⟨fun h => ?_, .noRule⟩, ⟨fun h => ?_, .noFirst⟩, ⟨fun h => ?_, .byZero⟩, ?_⟩
  · cases h
    assumption
  · cases h
    assumption
  · cases h
    assumption
  · intro hasRule hasFirst nonzero
    have some : leftFold? op operands ≠ none := by
      rw [ne_eq, leftFold?_eq_none_iff]
      exact not_or.mpr ⟨hasRule, hasFirst⟩
    obtain ⟨x, fold⟩ := Option.ne_none_iff_exists'.mp some
    refine ⟨x, fold, ⟨fun h => ?_, .outOfRange fold nonzero⟩, ⟨fun h => ?_, .number fold nonzero⟩⟩
    · cases h with
      | outOfRange fold' _ infinite => rwa [Option.some.inj (fold.symm.trans fold')]
    · cases h
      assumption

/-- The largest number by a half is out of range, and by a zero behind that it is a division by
zero still. -/
theorem reduce_ends_overflowed :
    let largest := Binary32.finite false ⟨255 * 2 ^ 23 - 1, by decide⟩
    let half := Binary32.finite false ⟨126 * 2 ^ 23, by decide⟩
    (Operator.divide ≠ .percent ∧ ¬ LacksFirst .divide [largest, half] ∧
        ¬ DividesByZero .divide [largest, half]) ∧
      reduce .divide [largest, half] = .error .outOfRange ∧
      reduce .divide [largest, half, .zero true] = .error .divisionByZero := by
  intro largest half
  have hasRule : Operator.divide ≠ .percent := by decide
  have hasFirst : ¬ LacksFirst .divide [largest, half] := fun lacks => nomatch lacks.2
  have nonzero : ¬ DividesByZero .divide [largest, half] := by
    rintro ⟨-, negative, zero⟩
    have heq := List.mem_singleton.mp zero
    cases negative <;> exact absurd heq (by decide)
  refine ⟨⟨hasRule, hasFirst, nonzero⟩, ?_, ?_⟩
  · obtain ⟨x, fold, outOfRange, -⟩ :=
      (reduce_ends .divide [largest, half]).2.2.2 hasRule hasFirst nonzero
    have infinite : leftFold? .divide [largest, half] = some (.infinite false) := by decide
    rw [infinite] at fold
    cases fold
    exact outOfRange.mpr (.inr ⟨false, rfl⟩)
  · exact (reduce_ends .divide _).2.2.1.mpr ⟨rfl, true, by simp⟩

end PocketCalc.Reduction
