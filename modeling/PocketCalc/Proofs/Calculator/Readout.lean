import PocketCalc.Calculator.Update
import PocketCalc.Proofs.Reduction
import PocketCalc.Proofs.Split

/-!
# What a calculator can show

Whatever keys are pressed, and however failures are to be shown, the text of a calculator has one of
three forms. Typed text is an **expression** (`IsExpression`): perhaps a minus sign, a run that
begins with a digit, and perhaps one operator with a second run, either of which may be unfinished.
A result is the plain text of a finite number. A failure is the text of one of three reasons.

**The law** (`press_legible`, `pressAll_legible`): every keystroke keeps a readout in one of the
three forms (`Readout.Legible`), and so does every sequence of them.

The operator of a result joins the text only with a second run behind it, and the next operator
reduces both to one number again, so a third run never comes to stand in the text.
-/

namespace PocketCalc

open Numeral (IsPlain not_isSymbol_of_plain)

/-! ## Expressions -/

/-- **What may stand behind the first run**: nothing, or an operator that has a rule and a second
run, which may be empty. -/
def IsTail (text : List Char) : Prop :=
  text = [] ∨ ∃ op run, op ≠ Operator.percent ∧ IsPlain run ∧ text = op.symbol :: run

/-- **An expression without sign**: a run that begins with a digit, and a tail. -/
def IsUnsigned (text : List Char) : Prop :=
  ∃ c more tail, c.isDigit ∧ IsPlain (c :: more) ∧ IsTail tail ∧ text = (c :: more) ++ tail

/-- **An expression**, with or without a minus sign in front. -/
def IsExpression (text : List Char) : Prop :=
  ∃ unsigned, IsUnsigned unsigned ∧ (text = unsigned ∨ text = '-' :: unsigned)

theorem Numeral.IsPlain.sublist {run text : List Char} (h : IsPlain text)
    (sub : run.Sublist text) : IsPlain run :=
  ⟨fun c hc => h.1 c (sub.subset hc), Nat.le_trans (sub.count_le '.') h.2⟩

/-- **A run takes a character**: any digit, and the point where it has none yet. -/
def Takes (run : List Char) (symbol : Char) : Prop :=
  symbol.isDigit ∨ (symbol = '.' ∧ '.' ∉ run)

theorem Takes.not_second {run : List Char} {symbol : Char} (h : Takes run symbol) :
    ¬ (symbol = '.' ∧ '.' ∈ run) := by
  rintro ⟨point, hmem⟩
  rcases h with digit | ⟨_, none⟩
  · exact Numeral.ne_point_of_isDigit digit point
  · exact none hmem

theorem takes_of_not_second {run : List Char} {symbol : Char} (h : symbol.isDigit ∨ symbol = '.')
    (notSecond : ¬ (symbol = '.' ∧ '.' ∈ run)) : Takes run symbol := by
  rcases h with digit | point
  · exact .inl digit
  · exact .inr ⟨point, fun hmem => notSecond ⟨point, hmem⟩⟩

/-- A plain run that takes a character stays plain; without its last character it takes it. -/
theorem isPlain_append {run : List Char} {symbol : Char} :
    IsPlain (run ++ [symbol]) ↔ IsPlain run ∧ Takes run symbol := by
  constructor
  · intro h
    refine ⟨h.sublist (List.sublist_append_left _ _), ?_⟩
    apply takes_of_not_second (h.1 symbol (List.mem_append_right _ (List.mem_singleton_self _)))
    rintro ⟨rfl, hmem⟩
    have hcount := h.2
    have hrun : 0 < run.count '.' := List.count_pos_iff.mpr hmem
    rw [List.count_append, List.count_singleton_self] at hcount
    omega
  · rintro ⟨h, takes⟩
    constructor
    · intro c hc
      rcases List.mem_append.mp hc with old | new
      · exact h.1 c old
      · obtain rfl := List.mem_singleton.mp new
        exact takes.imp_right And.left
    · rw [List.count_append]
      rcases takes with digit | ⟨rfl, none⟩
      · have hne : ¬ (symbol == '.') := by simpa using Numeral.ne_point_of_isDigit digit
        rw [List.count_singleton, if_neg hne]
        exact h.2
      · rw [List.count_eq_zero.mpr none, List.count_singleton_self]

theorem isPlain_singleton {symbol : Char} (h : symbol.isDigit ∨ symbol = '.') :
    IsPlain [symbol] :=
  isPlain_append.mpr
    ⟨Numeral.isPlain_of_digits (List.forall_mem_nil _), takes_of_not_second h (by simp)⟩

theorem isUnsigned_digit {c : Char} (h : c.isDigit) : IsUnsigned [c] :=
  ⟨c, [], [], h, isPlain_singleton (.inl h), .inl rfl, rfl⟩

theorem isExpression_emptyText : IsExpression Readout.emptyText :=
  ⟨_, isUnsigned_digit (by decide), .inl rfl⟩

/-! ## Editing an expression -/

/-- A sign in front does not belong to the run that is typed. -/
theorem currentRun_minus {text : List Char} (h : IsUnsigned text) :
    currentRun ('-' :: text) = currentRun text := by
  obtain ⟨c, more, tail, _, hplain, rfl | ⟨op, run, _, hrun, rfl⟩, rfl⟩ := h
  · have hsymbols := not_isSymbol_of_plain hplain
    rw [List.append_nil, currentRun_run hsymbols]
    exact currentRun_operator hsymbols [] .subtract
  · have hsymbols := not_isSymbol_of_plain hrun
    rw [currentRun_operator hsymbols, ← List.cons_append, currentRun_operator hsymbols]

/-- **A character that the current run takes** joins an unsigned expression. -/
theorem IsUnsigned.append {text : List Char} (h : IsUnsigned text) {symbol : Char}
    (takes : Takes (currentRun text) symbol) : IsUnsigned (text ++ [symbol]) := by
  obtain ⟨c, more, tail, hc, hplain, rfl | ⟨op, run, hop, hrun, rfl⟩, rfl⟩ := h
  · rw [List.append_nil, currentRun_run (not_isSymbol_of_plain hplain)] at takes
    refine ⟨c, more ++ [symbol], [], hc, ?_, .inl rfl, ?_⟩
    · rw [← List.cons_append]
      exact isPlain_append.mpr ⟨hplain, takes⟩
    · rw [List.append_nil, List.append_nil, List.cons_append]
  · rw [currentRun_operator (not_isSymbol_of_plain hrun)] at takes
    refine ⟨c, more, op.symbol :: (run ++ [symbol]), hc, hplain, ?_, ?_⟩
    · exact .inr ⟨op, run ++ [symbol], hop, isPlain_append.mpr ⟨hrun, takes⟩, rfl⟩
    · exact List.append_assoc _ _ _

/-- **A character taken off the end** leaves an unsigned expression, or nothing. -/
theorem IsUnsigned.dropLast {text : List Char} (h : IsUnsigned text) :
    text.dropLast = [] ∨ IsUnsigned text.dropLast := by
  obtain ⟨c, more, tail, hc, hplain, rfl | ⟨op, run, hop, hrun, rfl⟩, rfl⟩ := h
  · rw [List.append_nil]
    cases more with
    | nil => exact .inl rfl
    | cons d more =>
      refine .inr ⟨c, (d :: more).dropLast, [], hc, ?_, .inl rfl, ?_⟩
      · exact hplain.sublist (List.Sublist.cons_cons c (List.dropLast_sublist _))
      · rw [List.append_nil, List.dropLast_cons_cons]
  · refine .inr ?_
    rw [List.dropLast_append_of_ne_nil (List.cons_ne_nil _ _)]
    rcases List.eq_nil_or_concat' run with rfl | ⟨front, last, rfl⟩
    · exact ⟨c, more, [], hc, hplain, .inl rfl, rfl⟩
    · refine ⟨c, more, op.symbol :: front, hc, hplain, .inr ⟨op, front, hop, ?_, rfl⟩, ?_⟩
      · exact hrun.sublist (List.sublist_append_left _ _)
      · rw [← List.cons_append, List.dropLast_concat]

/-- An unsigned expression does not begin with a minus sign. -/
theorem IsUnsigned.ne_minus_cons {text : List Char} (h : IsUnsigned text) (rest : List Char) :
    text ≠ '-' :: rest := by
  obtain ⟨c, more, tail, hc, _, _, rfl⟩ := h
  intro heq
  obtain rfl := (List.cons.inj heq).1
  exact absurd hc (by decide)

/-- Changing the sign of an unsigned expression puts one there. -/
theorem IsUnsigned.flipSign {text : List Char} (h : IsUnsigned text) :
    Readout.flipSign text = '-' :: text := by
  rw [Readout.flipSign.eq_def]
  split
  next rest => exact absurd rfl (h.ne_minus_cons rest)
  next => rfl

theorem IsUnsigned.ne_nil {text : List Char} (h : IsUnsigned text) : text ≠ [] := by
  obtain ⟨c, more, tail, _, _, _, rfl⟩ := h
  exact List.cons_ne_nil _ _

theorem isExpression_plainText (negative : Bool) (m : Fin (255 * 2 ^ 23)) {tail : List Char}
    (h : IsTail tail) : IsExpression ((Binary32.finite negative m).plainText ++ tail) := by
  obtain ⟨c, more, htext, hc⟩ := Decimal.exists_cons_magnitudeText m
  have hplain := Decimal.isPlain_magnitudeText m
  rw [Binary32.plainText_finite, htext]
  rw [htext] at hplain
  refine ⟨(c :: more) ++ tail, ⟨c, more, tail, hc, hplain, h, rfl⟩, ?_⟩
  split
  · exact .inr rfl
  · exact .inl rfl

/-! ## Readouts -/

namespace Readout

open Calculator (failureText)

/-- **The readouts that keystrokes lead to.** -/
inductive Legible (display : Settings.Display) : Readout → Prop where
  /-- Typed text is an expression. -/
  | entry {text : List Char} : IsExpression text → Legible display (.entry text)
  /-- A result is a finite number, and its operator has a rule. -/
  | result (negative : Bool) (m : Fin (255 * 2 ^ 23)) {op : Operator} : op ≠ .percent →
      Legible display (.result (Binary32.finite negative m).plainText op)
  /-- A failure has one of three reasons. -/
  | failure {e : ReduceError} :
      e = .divisionByZero ∨ e = .unsupportedOperator '%' ∨ e = .outOfRange →
      Legible display (.failure (failureText display e))

variable {display : Settings.Display} {r : Readout}

theorem delete_of_idle (idle : r.isFailure = false) :
    r.delete = if r.text.dropLast = [] ∨ r.text.dropLast = ['-'] then fresh
      else .entry r.text.dropLast := by
  cases r with
  | failure => cases idle
  | _ => rfl

theorem toggleSign_of_idle (idle : r.isFailure = false) :
    r.toggleSign = if r.text = [] ∨ r.text = emptyText then r else .entry (flipSign r.text) := by
  cases r with
  | failure => cases idle
  | _ => rfl

/-- After a failure, typing begins as it does in a fresh readout. -/
theorem type_failure (text : List Char) (symbol : Char) :
    (failure text).type symbol = fresh.type symbol := by
  by_cases point : symbol = '.'
  · subst point
    rfl
  · simp only [type, fresh, point, false_and, if_false, not_false_eq_true, and_self, if_true,
      ne_eq]

theorem legible_fresh : Legible display .fresh := .entry isExpression_emptyText

/-- Typing a digit or the point keeps a readout legible. -/
theorem Legible.type (h : Legible display r) {symbol : Char}
    (hsymbol : symbol.isDigit ∨ symbol = '.') : Legible display (r.type symbol) := by
  cases h with
  | entry hexpr =>
    rw [Readout.type]
    split
    next => exact .entry hexpr
    next notSecond =>
      split
      next alone => exact .entry ⟨_, isUnsigned_digit (hsymbol.resolve_right alone.2), .inl rfl⟩
      next =>
        have takes := takes_of_not_second hsymbol notSecond
        obtain ⟨unsigned, hu, rfl | rfl⟩ := hexpr
        · exact .entry ⟨_, hu.append takes, .inl rfl⟩
        · rw [currentRun_minus hu] at takes
          exact .entry ⟨_, hu.append takes, .inr rfl⟩
  | result negative m hop =>
    exact .entry (isExpression_plainText negative m
      (.inr ⟨_, [symbol], hop, isPlain_singleton hsymbol, rfl⟩))
  | failure =>
    rw [Readout.type]
    split
    next => exact .entry ⟨_, ⟨'0', ['.'], [], by decide, by decide, .inl rfl, rfl⟩, .inl rfl⟩
    next notPoint => exact .entry ⟨_, isUnsigned_digit (hsymbol.resolve_right notPoint), .inl rfl⟩

theorem Legible.isExpression (h : Legible display r) (idle : r.isFailure = false) :
    IsExpression r.text := by
  cases h with
  | entry hexpr => exact hexpr
  | result negative m _ =>
    have := isExpression_plainText negative m (.inl rfl)
    rwa [List.append_nil] at this
  | failure => cases idle

theorem Legible.delete (h : Legible display r) : Legible display r.delete := by
  cases hr : r.isFailure with
  | true =>
    cases h with
    | failure => exact legible_fresh
    | _ => cases hr
  | false =>
    rw [delete_of_idle hr]
    split
    next => exact legible_fresh
    next left =>
      rw [not_or] at left
      obtain ⟨unsigned, hu, htext | htext⟩ := h.isExpression hr
      · rw [htext] at left ⊢
        exact .entry ⟨_, hu.dropLast.resolve_left left.1, .inl rfl⟩
      · rw [htext, List.dropLast_cons_of_ne_nil hu.ne_nil] at left ⊢
        exact .entry ⟨_, hu.dropLast.resolve_left fun hnil => left.2 (by rw [hnil]), .inr rfl⟩

theorem Legible.toggleSign (h : Legible display r) : Legible display r.toggleSign := by
  cases hr : r.isFailure with
  | true =>
    cases h with
    | failure reason => exact .failure reason
    | _ => cases hr
  | false =>
    rw [toggleSign_of_idle hr]
    split
    next => exact h
    next =>
      obtain ⟨unsigned, hu, htext | htext⟩ := h.isExpression hr
      · rw [htext, hu.flipSign]
        exact .entry ⟨unsigned, hu, .inr rfl⟩
      · rw [htext]
        exact .entry ⟨unsigned, hu, .inl rfl⟩

end Readout

/-! ## Keystrokes -/

namespace Calculator

theorem evaluate_of_failure {c : Calculator} {op : Operator} (failed : c.readout.isFailure) :
    c.evaluate op = { c with readout := .fresh } := by
  rw [evaluate, if_pos failed]

/-- **Evaluating where there is something to evaluate** is reducing the operands. -/
theorem evaluate_of_idle {c : Calculator} {op : Operator} (idle : c.readout.isFailure = false)
    (some : (c.splitBy op).operands ≠ []) :
    c.evaluate op =
      { c with
        tally := { c.tally with
          discarded := c.tally.discarded + (c.splitBy op).discarded.length } }.conclude op
        (Reduction.reduce op (c.splitBy op).operands) := by
  have hsome : ¬ (c.splitBy op).operands.isEmpty := by rwa [List.isEmpty_iff]
  simp only [evaluate, idle, hsome, Bool.false_eq_true, if_false]

@[simp]
theorem display_press (c : Calculator) (key : Keystroke) : (c.press key).display = c.display := by
  cases key with
  | digit symbol => rw [press]; split <;> rfl
  | operator op =>
    change (c.evaluate op).display = c.display
    unfold evaluate
    split
    · rfl
    · simp only
      split
      · rfl
      · cases Reduction.reduce op (c.splitBy op).operands <;> rfl
  | _ => rfl

/-- **Every keystroke keeps a readout legible.** -/
theorem press_legible {c : Calculator} (h : c.readout.Legible c.display) (key : Keystroke) :
    (c.press key).readout.Legible c.display := by
  cases key with
  | digit symbol =>
    rw [press]
    split
    next digit => exact h.type (.inl digit)
    next => exact h
  | decimalPoint => exact h.type (.inr rfl)
  | clear => exact Readout.legible_fresh
  | delete => exact h.delete
  | toggleSign => exact h.toggleSign
  | operator op =>
    change (c.evaluate op).readout.Legible c.display
    unfold evaluate
    split
    next => exact Readout.legible_fresh
    next =>
      simp only
      split
      next => exact Readout.legible_fresh
      next some =>
        rw [List.isEmpty_iff] at some
        cases hreduce : Reduction.reduce op (c.splitBy op).operands with
        | ok x =>
          obtain ⟨negative, m, rfl⟩ : ∃ negative m, x = .finite negative m := by
            have finite := Reduction.isFinite_of_reduce_eq_ok hreduce
            cases x with
            | finite negative m => exact ⟨negative, m, rfl⟩
            | _ => cases finite
          exact .result negative m (Reduction.ne_percent_of_reduce_eq_ok hreduce)
        | error e => exact .failure (Reduction.reduce_error_cases some hreduce)

theorem display_pressAll (c : Calculator) (keys : List Keystroke) :
    (c.pressAll keys).display = c.display := by
  induction keys generalizing c with
  | nil => rfl
  | cons key rest ih => exact (ih (c.press key)).trans (c.display_press key)

/-- **Every sequence of keystrokes keeps a readout legible.** -/
theorem pressAll_legible {c : Calculator} (h : c.readout.Legible c.display)
    (keys : List Keystroke) : (c.pressAll keys).readout.Legible c.display := by
  induction keys generalizing c with
  | nil => exact h
  | cons key rest ih =>
    have hstep : (c.press key).readout.Legible (c.press key).display := by
      rw [display_press]
      exact press_legible h key
    have := ih hstep
    rwa [display_press] at this

/-- Whatever keys are pressed on a fresh calculator, its readout is legible. -/
theorem fresh_legible (display : Settings.Display) (keys : List Keystroke) :
    ((fresh display).pressAll keys).readout.Legible display :=
  pressAll_legible (c := fresh display) Readout.legible_fresh keys

/-- **What a calculator can show.** Idle, it shows an expression: perhaps a minus sign, a run that
begins with a digit, and perhaps one operator other than percent with a second run; in each run are
digits and at most one point. A pending operator is none without a rule, and stands behind the text
of a finite number. A failure shows one of three reasons, with nothing pending. -/
theorem readout_of_pressAll (display : Settings.Display) (keys : List Keystroke) :
    let c := (fresh display).pressAll keys
    (c.mode = .idle → IsExpression c.buffer) ∧
      (∀ op, c.readout.pending? = some op → c.mode = .idle ∧ op ≠ .percent ∧
        ∃ x : Binary32, x.isFinite ∧ c.buffer = x.plainText) ∧
      (c.mode = .error → c.readout.pending? = none ∧
        ∃ e ∈ [ReduceError.divisionByZero, .unsupportedOperator '%', .outOfRange],
          c.buffer = failureText display e) := by
  intro c
  have h : c.readout.Legible display := pressAll_legible (c := fresh display)
    Readout.legible_fresh keys
  refine ⟨?_, ?_, ?_⟩
  · intro idle
    apply h.isExpression
    cases hfailure : c.readout.isFailure with
    | false => rfl
    | true => rw [mode, hfailure] at idle; cases idle
  · intro op pending
    generalize hr : c.readout = r at *
    cases h with
    | result negative m hop =>
      cases pending
      exact ⟨by rw [mode, hr]; rfl, hop, .finite negative m, rfl, by rw [buffer, hr]; rfl⟩
    | _ => cases pending
  · intro failed
    generalize hr : c.readout = r at *
    rw [mode, hr] at failed
    cases h with
    | failure reason =>
      exact ⟨rfl, _, by simpa using reason, by rw [buffer, hr]; rfl⟩
    | _ => cases failed

end Calculator

end PocketCalc
