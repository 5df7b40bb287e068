import PocketCalc.Proofs.Calculator.Recovery

/-!
# The sign in front of the text

A sign is one more character in front of an expression. To change it twice gives the text back, with
one exception: zero has no sign to change, so a zero that has one, left over where the point of
`-0.` was deleted, loses it for good.

No sign counts in an evaluation. To a split it is an operator in front of which nothing stands
(`Split.ofBuffer_minus`), and an evaluation depends on the operands and on how many runs are set
aside, but not on the operators between them (`Calculator.evaluate_readout`).

**The law** (`Calculator.toggleSign_twice`, `Calculator.evaluate_toggleSign`): two changes of sign
leave every text but that one as it was, and a change of sign before an operator key leaves what the
key does as it would have been.
-/

namespace PocketCalc

open Readout (emptyText flipSign)

/-! ## Expressions -/

variable {text : List Char}

/-- **A change of sign** puts a minus sign in front, or takes one off. -/
theorem IsExpression.flipSign_cases (h : IsExpression text) :
    flipSign text = '-' :: text ∨ text = '-' :: flipSign text := by
  obtain ⟨unsigned, hu, rfl | rfl⟩ := h
  · exact .inl hu.flipSign
  · exact .inr rfl

theorem isExpression_flipSign (h : IsExpression text) : IsExpression (flipSign text) := by
  obtain ⟨unsigned, hu, rfl | rfl⟩ := h
  · exact ⟨_, hu, .inr hu.flipSign⟩
  · exact ⟨_, hu, .inl rfl⟩

theorem IsExpression.flipSign_flipSign (h : IsExpression text) :
    flipSign (flipSign text) = text := by
  obtain ⟨unsigned, hu, rfl | rfl⟩ := h
  · rw [hu.flipSign]
    rfl
  · exact hu.flipSign

/-- Only a zero with a sign becomes zero. -/
theorem IsExpression.flipSign_eq_zero (h : IsExpression text) :
    flipSign text = emptyText ↔ text = '-' :: emptyText := by
  obtain ⟨unsigned, hu, rfl | rfl⟩ := h
  · rw [hu.flipSign]
    constructor
    · intro heq
      cases heq
    · intro heq
      exact absurd heq (hu.ne_minus_cons _)
  · exact (List.cons_inj_right '-').symm

/-! ## Readouts -/

namespace Readout

variable {display : Settings.Display} {r : Readout}

theorem isFailure_toggleSign (r : Readout) : r.toggleSign.isFailure = r.isFailure := by
  cases r with
  | failure => rfl
  | _ =>
    rw [toggleSign_of_idle rfl]
    split <;> rfl

/-- A failure has no sign to change, and neither has zero. -/
theorem toggleSign_eq_self (h : r.isFailure ∨ r.text = emptyText) : r.toggleSign = r := by
  cases r with
  | failure => rfl
  | _ => exact if_pos (.inr (h.resolve_left Bool.false_ne_true))

/-- Every other text has one. -/
theorem toggleSign_entry (h : IsExpression text) (some : text ≠ emptyText) :
    (entry text).toggleSign = .entry (flipSign text) :=
  if_neg (not_or.mpr ⟨h.ne_nil, some⟩)

/-- **What a change of sign does**, to every readout that keystrokes lead to. -/
theorem Legible.toggleSign_cases (h : Legible display r) :
    (r.isFailure ∨ r.text = emptyText) ∧ r.toggleSign = r ∨
      r.isFailure = false ∧ IsExpression r.text ∧ r.toggleSign = .entry (flipSign r.text) := by
  by_cases none : r.isFailure ∨ r.text = emptyText
  · exact .inl ⟨none, toggleSign_eq_self none⟩
  · obtain ⟨unfailed, some⟩ := not_or.mp none
    have idle := Bool.eq_false_of_not_eq_true unfailed
    have expression := h.isExpression idle
    refine .inr ⟨idle, expression, ?_⟩
    rw [toggleSign_of_idle idle, if_neg (not_or.mpr ⟨expression.ne_nil, some⟩)]

/-- **Two changes of sign** are none, except for a zero with a sign: that loses it. -/
theorem Legible.text_toggleSign_toggleSign (h : Legible display r) :
    r.toggleSign.toggleSign.text =
      if r.isFailure = false ∧ r.text = '-' :: emptyText then emptyText else r.text := by
  rcases h.toggleSign_cases with ⟨none, same⟩ | ⟨idle, expression, once⟩
  · have unsigned : ¬ (r.isFailure = false ∧ r.text = '-' :: emptyText) := by
      rintro ⟨idle, signed⟩
      rcases none with failed | zero
      · rw [idle] at failed
        cases failed
      · rw [signed] at zero
        cases zero
    rw [same, same, if_neg unsigned]
  · rw [once]
    by_cases signed : r.text = '-' :: emptyText
    · rw [if_pos ⟨idle, signed⟩, signed]
      rfl
    · have some : flipSign r.text ≠ emptyText := mt expression.flipSign_eq_zero.mp signed
      rw [toggleSign_entry (isExpression_flipSign expression) some, if_neg fun both => signed both.2]
      exact expression.flipSign_flipSign

end Readout

/-! ## Splits -/

/-- **A sign in front is split off** as one more operator. -/
theorem Split.ofBuffer_minus (ne : text ≠ []) (op : Operator) :
    ofBuffer ('-' :: text ++ [op.symbol]) =
      ⟨[], [.subtract], []⟩ ++ ofBuffer (text ++ [op.symbol]) := by
  rw [ofBuffer_append_operator (List.cons_ne_nil _ _), ofBuffer_append_operator ne,
    List.cons_append, ofTokens_cut_minus]

/-- **A change of sign changes nothing of what is read**: the operands are the same, and so are the
runs that are set aside. -/
theorem IsExpression.split_flipSign (h : IsExpression text) (op : Operator) :
    (Split.ofBuffer (flipSign text ++ [op.symbol])).operands =
        (Split.ofBuffer (text ++ [op.symbol])).operands ∧
      (Split.ofBuffer (flipSign text ++ [op.symbol])).discarded =
        (Split.ofBuffer (text ++ [op.symbol])).discarded := by
  obtain ⟨unsigned, hu, rfl | rfl⟩ := h
  · rw [hu.flipSign, Split.ofBuffer_minus hu.ne_nil]
    exact ⟨rfl, rfl⟩
  · rw [Split.ofBuffer_minus hu.ne_nil]
    exact ⟨rfl, rfl⟩

/-! ## Calculators -/

namespace Calculator

variable {c : Calculator}

/-- **What an evaluation depends on**: of what is shown, the operands and how many runs are set
aside. -/
theorem evaluate_readout {r : Readout} {op : Operator} (idle : c.readout.isFailure = false)
    (idle' : r.isFailure = false)
    (operands : (Split.ofBuffer (r.text ++ [op.symbol])).operands = (c.splitBy op).operands)
    (discarded : (Split.ofBuffer (r.text ++ [op.symbol])).discarded = (c.splitBy op).discarded) :
    evaluate { c with readout := r } op = c.evaluate op := by
  have hsplit : splitBy { c with readout := r } op = Split.ofBuffer (r.text ++ [op.symbol]) := rfl
  simp only [evaluate, idle, idle', hsplit, operands, discarded]
  cases Reduction.reduce op (c.splitBy op).operands <;> rfl

/-- **Two changes of sign.** However failures are to be shown and whatever keys were pressed, to
change the sign twice changes neither the mode nor the counts, and the text is what it was, unless
it is a zero with a sign: of that it leaves the zero. One change alone does nothing after a failure
and to zero; otherwise it puts a minus sign in front of the text or takes one off. -/
theorem toggleSign_twice (display : Settings.Display) (keys : List Keystroke) :
    let c := (fresh display).pressAll keys
    let once := c.press .toggleSign
    let twice := once.press .toggleSign
    (twice.mode = c.mode ∧ twice.tally = c.tally) ∧
      (twice.buffer = if c.mode = .idle ∧ c.buffer = ['-', '0'] then ['0'] else c.buffer) ∧
      ((c.mode = .error ∨ c.buffer = ['0']) ∧ once = c ∨
        once.buffer = '-' :: c.buffer ∨ c.buffer = '-' :: once.buffer) := by
  intro c once twice
  have legible : c.readout.Legible display := fresh_legible display keys
  have honce : once = { c with readout := c.readout.toggleSign } := rfl
  refine ⟨⟨?_, rfl⟩, ?_, ?_⟩
  · have hfailure : twice.readout.isFailure = c.readout.isFailure := by
      show c.readout.toggleSign.toggleSign.isFailure = _
      rw [Readout.isFailure_toggleSign, Readout.isFailure_toggleSign]
    rw [mode, mode, hfailure]
  · simp only [mode_eq_idle_iff]
    exact legible.text_toggleSign_toggleSign
  · rcases legible.toggleSign_cases with ⟨failed | zero, same⟩ | ⟨-, expression, changed⟩
    · exact .inl ⟨.inl (if_pos failed), by rw [honce, same]⟩
    · exact .inl ⟨.inr zero, by rw [honce, same]⟩
    · rw [honce, buffer, changed]
      exact .inr expression.flipSign_cases

/-- **A zero with a sign loses it for good**: two changes of sign lead from `-0` to `0`. -/
theorem toggleSign_twice_loses_sign :
    let c := (fresh {}).pressAll [.decimalPoint, .toggleSign, .delete]
    let twice := (c.press .toggleSign).press .toggleSign
    c.mode = .idle ∧ c.buffer = ['-', '0'] ∧ c.buffer ≠ ['0'] ∧
      twice.buffer = ['0'] ∧ twice.buffer ≠ c.buffer := by
  intro c twice
  exact ⟨by decide, by decide, by decide, by decide, by decide⟩

/-- **No sign counts in an evaluation.** However failures are to be shown and whatever keys were
pressed: to change the sign before an operator key, that of percent included, changes nothing of
what the key comes to, neither the text and the mode nor what is pending and what was counted. -/
theorem evaluate_toggleSign (display : Settings.Display) (keys : List Keystroke) (op : Operator) :
    let c := (fresh display).pressAll keys
    (c.press .toggleSign).press (.operator op) = c.press (.operator op) := by
  intro c
  have legible : c.readout.Legible display := fresh_legible display keys
  show evaluate { c with readout := c.readout.toggleSign } op = c.evaluate op
  rcases legible.toggleSign_cases with ⟨-, same⟩ | ⟨idle, expression, changed⟩
  · rw [same]
  · obtain ⟨operands, discarded⟩ := expression.split_flipSign op
    rw [changed]
    exact evaluate_readout idle rfl operands discarded

end Calculator

end PocketCalc
