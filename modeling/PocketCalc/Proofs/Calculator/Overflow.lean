import PocketCalc.Proofs.Calculator.Operands
import PocketCalc.Proofs.Reduction.Stepwise
import PocketCalc.Proofs.Split.Seam

/-!
# Numbers that are too large

A number can be typed that is too large for single precision. It is read as an infinity, and nothing
but the check at the end of a reduction is there to refuse it. The check sees it wherever it stands
(`Reduction.isFinite_of_reduce`), except behind a division: a finite number by an infinity is zero.

**The law** (`Calculator.overflow_fails_iff`): a number that is too large ends in a failure, unless
it is what a finite number is divided by. Then the calculator shows zero.
-/

namespace PocketCalc

/-- **A text has a number in it that is too large**: one of its runs is read as an infinity. -/
def HasOverflow (text : List Char) : Prop :=
  ∃ run negative, Token.run run ∈ Token.ofBuffer text ∧
    Binary32.read? (Text.trim run) = some (.infinite negative)

/-- What is too large stands among the operands, whatever operator is put behind the text. -/
theorem HasOverflow.mem_operands {text : List Char} (h : HasOverflow text) (op : Operator) :
    ∃ negative, .infinite negative ∈ (Split.ofBuffer (text ++ [op.symbol])).operands := by
  obtain ⟨run, negative, mem, read⟩ := h
  have long : ¬ text.length < 2 := by
    intro short
    rw [Token.ofBuffer, if_pos short] at mem
    cases mem
  have ne : text ≠ [] := by
    rintro rfl
    exact long (by decide)
  rw [Token.ofBuffer, if_neg long] at mem
  refine ⟨negative, ?_⟩
  rw [Split.ofBuffer_append_operator ne, Split.operands_ofTokens, Token.cut_append_operator]
  exact List.mem_filterMap.mpr ⟨_, List.mem_append_left _ mem, read⟩

namespace Calculator

variable {c : Calculator} {op : Operator}

/-- **The operator divides a finite number**, the first one in the text. -/
def DividesFinite (c : Calculator) (op : Operator) : Prop :=
  op = .divide ∧ ∃ x, (c.splitBy op).operands.head? = some x ∧ x.isFinite

/-- A finite number by one that is too large is reduced to zero. -/
theorem reduce_of_dividesFinite (h : c.DividesFinite op) (operands : (c.splitBy op).HasOperands)
    {negative : Bool} (mem : .infinite negative ∈ (c.splitBy op).operands) :
    ∃ sign, Reduction.reduce op (c.splitBy op).operands = .ok (Binary32.zero sign) := by
  obtain ⟨rfl, x, hx, finite⟩ := h
  have two : (c.splitBy .divide).operands.length ≤ 2 :=
    Nat.le_trans (Nat.le_add_right _ _) operands.2
  generalize (c.splitBy .divide).operands = list at *
  obtain ⟨rest, rfl⟩ := List.head?_eq_some_iff.mp hx
  cases x with
  | finite s m =>
    cases rest with
    | nil => cases List.mem_singleton.mp mem
    | cons y more =>
      have none : more = [] := by
        rw [← List.length_eq_zero_iff]
        rw [List.length_cons, List.length_cons] at two
        omega
      rw [none] at mem ⊢
      obtain rfl := List.mem_singleton.mp ((List.mem_cons.mp mem).resolve_left (by simp))
      refine ⟨s ^^ negative, ?_⟩
      show Reduction.inRange (Binary32.finite s m / .infinite negative) = _
      rw [Binary32.finite_div_infinite]
      rfl
  | _ => cases finite

/-- Everywhere else no number comes of one that is too large. -/
theorem dividesFinite_of_reduce {x : Binary32}
    (h : Reduction.reduce op (c.splitBy op).operands = .ok x) {negative : Bool}
    (mem : .infinite negative ∈ (c.splitBy op).operands) : c.DividesFinite op := by
  unfold DividesFinite
  generalize (c.splitBy op).operands = list at *
  obtain ⟨first, rest, rfl⟩ := List.exists_cons_of_ne_nil (List.ne_nil_of_mem mem)
  obtain ⟨hfirst, hrest⟩ := Reduction.isFinite_of_reduce h
  refine ⟨?_, first, rfl, hfirst⟩
  by_contra undivided
  have finite : ∀ x ∈ first :: rest, x.isFinite :=
    List.forall_mem_cons.mpr ⟨hfirst, hrest undivided⟩
  cases finite _ mem

/-- **When a number that is too large is shown to be one.** Whatever keys were pressed, and whatever
operator key is pressed next: while the text has a number in it that is too large, the calculator
fails and counts the failure, unless a finite number is divided by it. In that case the calculator
shows zero, with the division pending, and counts no failure. -/
theorem overflow_fails_iff (display : Settings.Display) (keys : List Keystroke) (op : Operator) :
    let c := (fresh display).pressAll keys
    let after := c.press (.operator op)
    c.mode = .idle → HasOverflow c.buffer →
      ((after.mode = .error ∧ after.tally.failures = c.tally.failures + 1) ↔
          ¬ c.DividesFinite op) ∧
        (c.DividesFinite op → after.mode = .idle ∧ after.buffer = ['0'] ∧
          after.readout.pending? = some .divide ∧ after.tally.failures = c.tally.failures) := by
  intro c after idle overflow
  have legible : c.readout.Legible c.display := by
    rw [display_pressAll]
    exact pressAll_legible (c := fresh display) Readout.legible_fresh keys
  have operands := hasOperands_of_idle legible idle op
  obtain ⟨negative, mem⟩ := overflow.mem_operands op
  have hafter : after = _ :=
    evaluate_of_idle (mode_eq_idle_iff.mp idle) (List.ne_nil_of_mem mem)
  by_cases divides : c.DividesFinite op
  · obtain ⟨sign, hreduce⟩ := reduce_of_dividesFinite divides operands mem
    rw [hafter, hreduce]
    refine ⟨⟨fun failed => ?_, fun not => absurd divides not⟩, fun _ => ?_⟩
    · cases failed.1
    · exact ⟨rfl, rfl, congrArg some divides.1, rfl⟩
  · cases hreduce : Reduction.reduce op (c.splitBy op).operands with
    | ok x => exact absurd (dividesFinite_of_reduce hreduce mem) divides
    | error e =>
      rw [hafter, hreduce]
      exact ⟨⟨fun _ => divides, fun _ => ⟨rfl, rfl⟩⟩, fun other => absurd other divides⟩

/-- Five by a number that is too large, and the same text multiplied: a failure. -/
theorem overflow_fails_iff_multiplied :
    let c := (fresh {}).pressAll
      (.digit '5' :: .operator .divide :: List.replicate 39 (.digit '9'))
    let after := c.press (.operator .multiply)
    c.mode = .idle ∧ HasOverflow c.buffer ∧ ¬ c.DividesFinite .multiply ∧
      after.mode = .error ∧ after.tally.failures = c.tally.failures + 1 := by
  intro c after
  have idle : c.mode = .idle := by decide
  have overflow : HasOverflow c.buffer := ⟨List.replicate 39 '9', false, by decide, by decide⟩
  have undivided : ¬ c.DividesFinite .multiply := fun divides => nomatch divides.1
  have fails := overflow_fails_iff {}
    (.digit '5' :: .operator .divide :: List.replicate 39 (.digit '9')) .multiply idle overflow
  exact ⟨idle, overflow, undivided, fails.1.mpr undivided⟩

/-- **A divisor that is too large is not told from a small quotient.** Five by a number of
thirty-nine nines is shown as zero, and no failure is counted. -/
theorem overflowed_divisor_shows_zero :
    let c := (fresh {}).pressAll
      (.digit '5' :: .operator .divide :: List.replicate 39 (.digit '9'))
    let after := c.press (.operator .divide)
    c.mode = .idle ∧ HasOverflow c.buffer ∧
      after.mode = .idle ∧ after.buffer = ['0'] ∧ after.tally.failures = c.tally.failures := by
  intro c after
  exact ⟨by decide, ⟨List.replicate 39 '9', false, by decide, by decide⟩, by decide, by decide,
    by decide⟩

end Calculator

end PocketCalc
