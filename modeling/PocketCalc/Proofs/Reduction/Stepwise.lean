import PocketCalc.Proofs.Binary.Single
import PocketCalc.Proofs.Reduction

/-!
# Reducing step by step

The sum and the product begin with a unit of their operation, so every rule comes to the same: from
the first operand on, one step for each of the others (`Reduction.step`), and at the end the check
of the range (`Reduction.reduce_cons`). Only there is it looked at whether the number is finite. But
no step leads back from an infinite or undefined number to a finite one
(`Reduction.isFinite_of_step`), so the check sees what happened on the way.

**The law** (`Reduction.reduce_append`): the operands of a reduction can be replaced from the front
by what they reduce to.

**What it does not establish.** That operands can be grouped in any other way: the steps are
rounded, and the order is from left to right.
-/

namespace PocketCalc.Reduction

/-- **One step of a rule**: the number so far, and the next operand. -/
def step : Operator → Binary32 → Binary32 → Except ReduceError Binary32
  | .add, x, y => .ok (x + y)
  | .subtract, x, y => .ok (x - y)
  | .multiply, x, y => .ok (x * y)
  | .divide, x, y => divideBy x y
  | .percent, _, _ => .error (.unsupportedOperator '%')

variable {op : Operator} {first x y z : Binary32} {rest : List Binary32}

/-- **A reduction is its steps**, and the check at the end. -/
theorem reduce_cons (hasRule : op ≠ .percent) (first : Binary32) (rest : List Binary32) :
    reduce op (first :: rest) = rest.foldlM (step op) first >>= inRange := by
  cases op with
  | add =>
    show inRange ((first :: rest).foldl (· + ·) (Binary32.zero true)) = _
    rw [List.foldl_cons, Binary32.negativeZero_add]
    exact congrArg (· >>= inRange) (List.foldlM_pure (m := Except ReduceError)).symm
  | subtract =>
    exact congrArg (· >>= inRange) (List.foldlM_pure (m := Except ReduceError)).symm
  | multiply =>
    show inRange ((first :: rest).foldl (· * ·) Binary32.one) = _
    rw [List.foldl_cons, Binary32.one_mul]
    exact congrArg (· >>= inRange) (List.foldlM_pure (m := Except ReduceError)).symm
  | divide => rfl
  | percent => exact absurd rfl hasRule

/-! ## Finite numbers -/

/-- **A finite number comes of a finite number**, and unless it was divided, also of a finite
operand. -/
theorem isFinite_of_step (h : step op x y = .ok z) (finite : z.isFinite) :
    x.isFinite ∧ (op ≠ .divide → y.isFinite) := by
  cases op with
  | add =>
    cases h
    exact (Binary32.isFinite_of_add finite).imp_right fun hy _ => hy
  | subtract =>
    cases h
    exact (Binary32.isFinite_of_sub finite).imp_right fun hy _ => hy
  | multiply =>
    cases h
    exact (Binary32.isFinite_of_mul finite).imp_right fun hy _ => hy
  | divide =>
    rw [step, divideBy] at h
    split at h
    · cases h
    · cases h
      exact ⟨Binary32.isFinite_of_div finite, fun divide => absurd rfl divide⟩
  | percent => cases h

/-- The same through any number of steps. -/
theorem isFinite_of_steps (h : rest.foldlM (step op) first = .ok z) (finite : z.isFinite) :
    first.isFinite ∧ (op ≠ .divide → ∀ x ∈ rest, x.isFinite) := by
  induction rest generalizing first with
  | nil =>
    cases h
    exact ⟨finite, fun _ => List.forall_mem_nil _⟩
  | cons y rest ih =>
    rw [List.foldlM_cons] at h
    cases hstep : step op first y with
    | error e => rw [hstep] at h; cases h
    | ok next =>
      rw [hstep] at h
      obtain ⟨hnext, hrest⟩ := ih h
      obtain ⟨hfirst, hy⟩ := isFinite_of_step hstep hnext
      exact ⟨hfirst, fun undivided => List.forall_mem_cons.mpr ⟨hy undivided, hrest undivided⟩⟩

/-- **What is reduced to a number was finite**: the first operand, and unless they divide, all
others. -/
theorem isFinite_of_reduce (h : reduce op (first :: rest) = .ok z) :
    first.isFinite ∧ (op ≠ .divide → ∀ x ∈ rest, x.isFinite) := by
  rw [reduce_cons (ne_percent_of_reduce_eq_ok h)] at h
  cases hsteps : rest.foldlM (step op) first with
  | error e => rw [hsteps] at h; cases h
  | ok x =>
    rw [hsteps] at h
    obtain ⟨rfl, finite⟩ := inRange_eq_ok h
    exact isFinite_of_steps hsteps finite

/-! ## Going on from a result -/

/-- **Operands can be reduced as they come.** Where the operands up to now reduce to a number, that
number stands for them, whatever operands follow: the reduction ends with the same number, bit for
bit, or for the same reason. Where they cannot be reduced, no operands that follow change that, so
nothing that is infinite or undefined on the way is hidden by the check at the end. -/
theorem reduce_append (op : Operator) (first : Binary32) (rest more : List Binary32) :
    (∀ x, reduce op (first :: rest) = .ok x →
        reduce op (first :: rest ++ more) = reduce op (x :: more)) ∧
      ∀ e, reduce op (first :: rest) = .error e →
        ∃ e', reduce op (first :: rest ++ more) = .error e' := by
  by_cases hasRule : op = .percent
  · subst hasRule
    exact ⟨fun x h => (ne_percent_of_reduce_eq_ok h rfl).elim, fun e h => ⟨_, rfl⟩⟩
  have together : reduce op (first :: rest ++ more) =
      rest.foldlM (step op) first >>= fun x => more.foldlM (step op) x >>= inRange := by
    rw [List.cons_append, reduce_cons hasRule, List.foldlM_append, bind_assoc]
  rw [together, reduce_cons hasRule]
  cases hsteps : rest.foldlM (step op) first with
  | error e =>
    constructor
    · intro x h
      cases h
    · intro e' h
      exact ⟨e, rfl⟩
  | ok x =>
    constructor
    · intro y h
      obtain ⟨rfl, -⟩ := inRange_eq_ok h
      exact (reduce_cons hasRule x more).symm
    · intro e h
      -- a number would mean that the number so far was finite
      cases htogether : more.foldlM (step op) x >>= inRange with
      | error e' => exact ⟨e', htogether⟩
      | ok z =>
        have finite := (isFinite_of_reduce ((reduce_cons hasRule x more).trans htogether)).1
        have hx : inRange x = .ok x := if_pos finite
        exact absurd (hx.symm.trans h) (by simp)

end PocketCalc.Reduction
