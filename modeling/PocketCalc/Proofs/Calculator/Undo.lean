import PocketCalc.Proofs.Calculator.Entry

/-!
# Typing taken back

To delete takes off one character, and a key does not always put one on: a digit replaces a lone
zero, and a text of which nothing would be left becomes that zero again. So the length of the text
does not tell how many keys were pressed. Key by key it comes out even all the same
(`IsExpression.delete_type`): where a digit has replaced the zero, deleting it brings the zero back,
and no text that keys lead to is empty or a bare sign.

**The law** (`Calculator.TakesAll.pressAll_delete`): keys that all go into the text are taken back
by deleting once for each of them.

**What it does not establish.** Anything of keys that the text does not take: a second point in a
run changes nothing, and to delete would take off what stood before it.
-/

namespace PocketCalc

/-! ## One key -/

theorem IsExpression.ne_minus {text : List Char} (h : IsExpression text) : text ≠ ['-'] := by
  obtain ⟨unsigned, hu, rfl | rfl⟩ := h
  · exact hu.ne_minus_cons []
  · exact fun heq => hu.ne_nil (List.cons.inj heq).2

/-- What was the text before its last character is what is left when that is deleted. -/
theorem IsExpression.delete_concat {text : List Char} (h : IsExpression text) (symbol : Char) :
    (Readout.entry (text ++ [symbol])).delete = .entry text := by
  have left : ¬ (text = [] ∨ text = ['-']) := not_or.mpr ⟨h.ne_nil, h.ne_minus⟩
  rw [Readout.delete_of_idle rfl, Readout.text, List.dropLast_concat, if_neg left]

/-- **One key is taken back**: a character that an expression takes makes another expression of it,
and to delete restores the one before. -/
theorem IsExpression.delete_type {text : List Char} (h : IsExpression text) {symbol : Char}
    (takes : Takes (currentRun text) symbol) :
    ∃ grown, IsExpression grown ∧ (Readout.entry text).type symbol = .entry grown ∧
      (Readout.entry grown).delete = .entry text := by
  by_cases alone : text = Readout.emptyText ∧ symbol ≠ '.'
  · obtain ⟨rfl, notPoint⟩ := alone
    have digit := takes.resolve_right fun point => notPoint point.1
    refine ⟨[symbol], ⟨_, isUnsigned_digit digit, .inl rfl⟩, ?_, rfl⟩
    rw [Readout.type, if_neg takes.not_second, if_pos ⟨rfl, notPoint⟩]
  · have htype := Readout.type_entry takes.not_second alone
    refine ⟨text ++ [symbol], ?_, htype, h.delete_concat symbol⟩
    have legible : Readout.Legible {} (.entry text) := .entry h
    have typed := legible.type (takes.imp_right And.left)
    rw [htype] at typed
    exact typed.isExpression rfl

/-! ## Keys one after the other -/

namespace Calculator

/-- **Keys that all go into the text**: digits, and a point where the current run has none when it
is pressed. -/
inductive TakesAll : Calculator → List Char → Prop where
  | nil (c : Calculator) : TakesAll c []
  | cons {c : Calculator} {symbol : Char} {rest : List Char} :
      Takes (currentRun c.buffer) symbol → TakesAll (c.press (.ofRunChar symbol)) rest →
      TakesAll c (symbol :: rest)

variable {c : Calculator} {run : List Char}

theorem press_ofRunChar {symbol : Char} (h : symbol.isDigit ∨ symbol = '.') :
    c.press (.ofRunChar symbol) = { c with readout := c.readout.type symbol } := by
  have chars : ∀ d ∈ [symbol], d.isDigit ∨ d = '.' := List.forall_mem_singleton.mpr h
  exact c.pressAll_run chars

/-- **Keys are taken back**, the last one first. -/
theorem TakesAll.pressAll_delete (h : c.TakesAll run) {text : List Char}
    (entry : c.readout = .entry text) (expression : IsExpression text) :
    c.pressAll (run.map .ofRunChar ++ List.replicate run.length .delete) = c := by
  induction h generalizing text with
  | nil => rfl
  | @cons c symbol rest takes _ ih =>
    rw [buffer, entry] at takes
    obtain ⟨grown, hgrown, htype, hdelete⟩ := expression.delete_type takes
    have hpress : c.press (.ofRunChar symbol) = { c with readout := .entry grown } := by
      rw [press_ofRunChar (takes.imp_right And.left), entry, htype]
    have hback : (c.press (.ofRunChar symbol)).press .delete = c := by
      rw [hpress, press, hdelete, ← entry]
    -- all deletions but one take back the rest
    rw [List.map_cons, List.length_cons, List.replicate_succ', List.cons_append,
      ← List.append_assoc]
    show (c.press (.ofRunChar symbol)).pressAll _ = c
    rw [pressAll_append, ih (by rw [hpress]) hgrown]
    exact hback

end Calculator

theorem Readout.Legible.exists_entry {display : Settings.Display} {r : Readout}
    (h : r.Legible display) (idle : r.isFailure = false) (nothing : r.pending? = none) :
    ∃ text, r = .entry text ∧ IsExpression text := by
  cases h with
  | entry expression => exact ⟨_, rfl, expression⟩
  | result => cases nothing
  | failure => cases idle

namespace Calculator

/-- **Deleting undoes typing.** Whatever keys were pressed before, let the calculator be idle with
nothing pending. Then any digits, and points that are pressed while the current run has none, are
undone by deleting as many times as keys were pressed: text, mode and counts are what they were. -/
theorem delete_undoes_typing (display : Settings.Display) (keys : List Keystroke)
    (run : List Char) :
    let c := (fresh display).pressAll keys
    c.mode = .idle → c.readout.pending? = none → c.TakesAll run →
      c.pressAll (run.map .ofRunChar ++ List.replicate run.length .delete) = c := by
  intro c idle nothing takes
  have legible : c.readout.Legible display := fresh_legible display keys
  obtain ⟨text, entry, expression⟩ :=
    legible.exists_entry (mode_eq_idle_iff.mp idle) nothing
  exact takes.pressAll_delete entry expression

/-- Five keys leave three characters of a fresh text, and five deletions lead back to it. -/
theorem delete_undoes_typing_zeros :
    let c := fresh {}
    let run := ['0', '0', '7', '.', '5']
    c.mode = .idle ∧ c.readout.pending? = none ∧ c.TakesAll run ∧
      (c.pressAll (run.map .ofRunChar)).buffer = ['7', '.', '5'] ∧
      c.pressAll (run.map .ofRunChar ++ List.replicate run.length .delete) = c := by
  intro c run
  have takes : c.TakesAll run :=
    .cons (.inl rfl) (.cons (.inl rfl) (.cons (.inl rfl)
      (.cons (.inr ⟨rfl, by decide⟩) (.cons (.inl rfl) (.nil _)))))
  exact ⟨rfl, rfl, takes, by decide, delete_undoes_typing {} [] run rfl rfl takes⟩

end Calculator

end PocketCalc
