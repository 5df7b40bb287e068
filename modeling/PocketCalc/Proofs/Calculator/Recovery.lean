import PocketCalc.Proofs.Calculator.Operands

/-!
# A failure is forgotten

What a calculator does never depends on what it has counted: counts made before only add up
(`Calculator.press_countedFrom`, `Calculator.pressAll_countedFrom`). And the keystroke that leaves a
failure leaves nothing of it. A digit or the point begins a number as on a fresh calculator; to
clear, to delete or to press an operator makes the calculator fresh, and nothing is evaluated.

**The law** (`Calculator.failure_forgotten`): from the keystroke on that leaves a failure, a
calculator is a fresh one that has counted before.
-/

namespace PocketCalc

/-- Counts made one after the other. -/
def Tally.add (before after : Tally) : Tally where
  evaluations := before.evaluations + after.evaluations
  failures := before.failures + after.failures
  discarded := before.discarded + after.discarded

namespace Calculator

/-- **The same calculator with more counted**: so much had been counted before. -/
def countedFrom (before : Tally) (c : Calculator) : Calculator :=
  { c with tally := before.add c.tally }

variable (before : Tally) (c : Calculator)

/-! ## Counts do not matter -/

theorem conclude_countedFrom (op : Operator) (answer : Except ReduceError Binary32) :
    (c.countedFrom before).conclude op answer = (c.conclude op answer).countedFrom before := by
  cases answer <;> rfl

theorem evaluate_countedFrom (op : Operator) :
    (c.countedFrom before).evaluate op = (c.evaluate op).countedFrom before := by
  rw [evaluate, evaluate, show (c.countedFrom before).readout = c.readout from rfl,
    show (c.countedFrom before).splitBy op = c.splitBy op from rfl]
  split
  · rfl
  · simp only
    split
    · simp only [countedFrom, Tally.add, Nat.add_assoc]
    · rw [← conclude_countedFrom]
      simp only [countedFrom, Tally.add, Nat.add_assoc]

/-- **A keystroke does the same** whatever was counted before. -/
theorem press_countedFrom (key : Keystroke) :
    (c.countedFrom before).press key = (c.press key).countedFrom before := by
  cases key with
  | digit symbol =>
    rw [press, press]
    split <;> rfl
  | operator op => exact evaluate_countedFrom before c op
  | _ => rfl

/-- **And so does every sequence of keystrokes.** -/
theorem pressAll_countedFrom (keys : List Keystroke) :
    (c.countedFrom before).pressAll keys = (c.pressAll keys).countedFrom before := by
  induction keys generalizing c with
  | nil => rfl
  | cons key rest ih =>
    show ((c.countedFrom before).press key).pressAll rest = _
    rw [press_countedFrom, ih]
    rfl

/-! ## Leaving a failure -/

variable {c}

/-- Without its readout and its counts, a calculator is fresh. -/
theorem fresh_of_readout : { c with readout := .fresh } = (fresh c.display).countedFrom c.tally :=
  rfl

/-- A digit or the point begins a number as on a fresh calculator. -/
theorem type_of_failure (failed : c.readout.isFailure) (symbol : Char) :
    { c with readout := c.readout.type symbol } =
      countedFrom c.tally { fresh c.display with readout := Readout.fresh.type symbol } := by
  cases hr : c.readout with
  | failure text => rw [Readout.type_failure]; rfl
  | _ => rw [hr] at failed; cases failed

theorem delete_of_failure (failed : c.readout.isFailure) : c.readout.delete = .fresh := by
  cases hr : c.readout with
  | failure text => rfl
  | _ => rw [hr] at failed; cases failed

theorem toggleSign_of_failure (failed : c.readout.isFailure) :
    c.readout.toggleSign = c.readout := by
  cases hr : c.readout with
  | failure text => rfl
  | _ => rw [hr] at failed; cases failed

/-- **A failure is forgotten.** However failures are to be shown and whatever keys led into one: a
digit or the point, and all keys that are pressed after it, find the calculator as a fresh one would
be; all keys pressed after the failure was cleared, deleted or left by an operator key do the same.
What a fresh calculator would have counted is added to what had been counted. A change of sign does
nothing to a failure, nor does a digit key with another character on it. -/
theorem failure_forgotten (display : Settings.Display) (keys : List Keystroke) :
    let c := (fresh display).pressAll keys
    c.mode = .error →
      (∀ key, key = .decimalPoint ∨ (∃ symbol, symbol.isDigit ∧ key = .digit symbol) →
        ∀ later, c.pressAll (key :: later) =
          ((fresh display).pressAll (key :: later)).countedFrom c.tally) ∧
      (∀ key, key = .clear ∨ key = .delete ∨ (∃ op, key = .operator op) →
        ∀ later, c.pressAll (key :: later) =
          ((fresh display).pressAll later).countedFrom c.tally) ∧
      c.press .toggleSign = c ∧
      ∀ symbol, ¬ symbol.isDigit → c.press (.digit symbol) = c := by
  intro c mode
  have failed := isFailure_of_error mode
  have hdisplay : c.display = display := display_pressAll _ keys
  refine ⟨?_, ?_, ?_, ?_⟩
  · intro key begins later
    have step : c.press key = ((fresh display).press key).countedFrom c.tally := by
      rw [← hdisplay]
      rcases begins with rfl | ⟨symbol, digit, rfl⟩
      · exact type_of_failure failed '.'
      · rw [press, press, if_pos digit, if_pos digit]
        exact type_of_failure failed symbol
    show (c.press key).pressAll later = _
    rw [step, pressAll_countedFrom]
    rfl
  · intro key leaves later
    have step : c.press key = (fresh display).countedFrom c.tally := by
      rw [← hdisplay, ← fresh_of_readout]
      rcases leaves with rfl | rfl | ⟨op, rfl⟩
      · rfl
      · rw [press, delete_of_failure failed]
      · exact evaluate_of_failure failed
    show (c.press key).pressAll later = _
    rw [step, pressAll_countedFrom]
  · rw [press, toggleSign_of_failure failed]
  · intro symbol stray
    rw [press, if_neg stray]

/-- Nine by zero is forgotten, whether a number follows or the failure is left first. -/
theorem failure_forgotten_division :
    let c := (fresh {}).pressAll
      [.digit '9', .operator .divide, .digit '0', .operator .divide]
    c.mode = .error ∧
      c.pressAll [.digit '4', .operator .add] =
        ((fresh {}).pressAll [.digit '4', .operator .add]).countedFrom ⟨2, 1, 0⟩ ∧
      c.pressAll [.operator .add, .digit '4'] =
        ((fresh {}).pressAll [.digit '4']).countedFrom ⟨2, 1, 0⟩ ∧
      c.press .toggleSign = c ∧ c.press (.digit 'x') = c := by
  intro c
  have failed : c.mode = .error := by decide
  obtain ⟨begins, leaves, toggled, stray⟩ := failure_forgotten {}
    [.digit '9', .operator .divide, .digit '0', .operator .divide] failed
  exact ⟨failed, begins (.digit '4') (.inr ⟨'4', by decide, rfl⟩) [.operator .add],
    leaves (.operator .add) (.inr (.inr ⟨.add, rfl⟩)) [.digit '4'], toggled,
    stray 'x' (by decide)⟩

end Calculator

end PocketCalc
