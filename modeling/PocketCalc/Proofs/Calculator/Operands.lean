import PocketCalc.Proofs.Calculator.Readout

/-!
# What the text tells

Whether a calculator shows a failure is kept beside its text, and yet the text tells it. Put an
operator behind the text and split it: an expression has one operand or two
(`IsExpression.operands`), and the text of a failure has none, if its marker is one that settings
may have (`Calculator.operands_failureText`).

A failure's reason is part of its text where that is wanted, and is split like any other. The colon
in front of it makes a run of which no numeral can be read (`Split.ofRun_colon`), and what the
percent sign in one of the reasons cuts off is a quote.

**The law** (`Calculator.text_tells_mode`): with settings that have no fault, what an operator key
evaluates has operands, and no failure looks like a text that is none.

**What it does not establish.** That two failures of different reasons look different: without
details they look the same.
-/

namespace PocketCalc

/-! ## Texts with a colon -/

namespace Numeral

theorem mem_splitSign {text : List Char} {c : Char} (mem : c ∈ text) (minus : c ≠ '-')
    (plus : c ≠ '+') : c ∈ (splitSign text).2 := by
  rw [splitSign.eq_def]
  split
  · exact (List.mem_cons.mp mem).resolve_left minus
  · exact (List.mem_cons.mp mem).resolve_left plus
  · exact mem

/-- Digits end before a colon. -/
theorem colon_mem_dropWhile {text : List Char} (colon : ':' ∈ text) :
    ':' ∈ text.dropWhile Char.isDigit := by
  rw [← List.takeWhile_append_dropWhile (p := Char.isDigit) (l := text)] at colon
  refine (List.mem_append.mp colon).resolve_left ?_
  intro front
  exact absurd (List.all_eq_true.mp List.all_takeWhile ':' front) (by decide)

theorem readPower_colon {text : List Char} (colon : ':' ∈ text) : readPower text = none := by
  cases text with
  | nil => cases colon
  | cons mark rest =>
    rw [readPower]
    split
    next power =>
      have hrest : ':' ∈ rest := by
        refine (List.mem_cons.mp colon).resolve_left ?_
        rintro rfl
        exact absurd power (by decide)
      have hnot : ¬ ((splitSign rest).2.all Char.isDigit) := by
        intro all
        have := List.all_eq_true.mp all ':' (mem_splitSign hrest (by decide) (by decide))
        exact absurd this (by decide)
      simp only [readDigits, hnot, Bool.and_false, Bool.false_eq_true, if_false]
      rfl
    next => rfl

theorem readDecimal_colon (negative : Bool) {text : List Char} (colon : ':' ∈ text) :
    readDecimal negative text = none := by
  have hrest := colon_mem_dropWhile colon
  rw [readDecimal]
  generalize text.dropWhile Char.isDigit = afterWhole at hrest
  simp only
  split
  next rest =>
    have hafter := colon_mem_dropWhile ((List.mem_cons.mp hrest).resolve_left (by decide))
    rw [readPower_colon hafter]
    split <;> rfl
  next =>
    rw [readPower_colon hrest]
    split <;> rfl

/-- **No numeral has a colon.** -/
theorem read?_colon {text : List Char} (colon : ':' ∈ text) : read? text = none := by
  have hbody := mem_splitSign colon (by decide) (by decide)
  have hname : ∀ name : String, ':' ∉ name.toList →
      String.ofList ((splitSign text).2.map Char.toLower) ≠ name := by
    rintro name none rfl
    rw [String.toList_ofList] at none
    exact none (List.mem_map_of_mem (f := Char.toLower) hbody)
  simp only [read?, hname "inf" (by decide), hname "infinity" (by decide), hname "nan" (by decide),
    or_self, if_false]
  exact readDecimal_colon _ hbody

end Numeral

namespace Text

theorem mem_trimLeft {text : List Char} {c : Char} (mem : c ∈ text) (visible : ¬ isBlank c) :
    c ∈ trimLeft text := by
  rw [← List.takeWhile_append_dropWhile (p := isBlank) (l := text)] at mem
  refine (List.mem_append.mp mem).resolve_left ?_
  intro front
  exact visible (List.all_eq_true.mp List.all_takeWhile c front)

/-- Trimming keeps what is not blank. -/
theorem mem_trim {text : List Char} {c : Char} (mem : c ∈ text) (visible : ¬ isBlank c) :
    c ∈ trim text := by
  have hleft := List.mem_reverse.mpr (mem_trimLeft mem visible)
  exact List.mem_reverse.mpr (mem_trimLeft hleft visible)

theorem not_isBlankText_of_mem {text : List Char} {c : Char} (mem : c ∈ text)
    (visible : ¬ isBlank c) : ¬ isBlankText text :=
  fun all => visible (List.all_eq_true.mp all c mem)

end Text

/-! ## Runs -/

namespace Split

/-- A run is one operand, or one text set aside, or nothing. -/
theorem length_ofRun_le (text : List Char) :
    (ofRun text).operands.length + (ofRun text).discarded.length ≤ 1 := by
  rw [ofRun, Token.ofRun]
  split
  · exact Nat.zero_le 1
  · rw [ofTokens, List.foldr_cons, List.foldr_nil, ofToken]
    split <;> exact Nat.le_refl 1

/-- A run that cannot be read is set aside as it stands. -/
theorem ofRun_of_read?_eq_none {text : List Char} (visible : ¬ Text.isBlankText text)
    (unread : Numeral.read? (Text.trim text) = none) : ofRun text = ⟨[], [], [text]⟩ := by
  rw [ofRun, Token.ofRun, if_neg visible, ofTokens, List.foldr_cons, List.foldr_nil, ofToken,
    Binary32.read?, unread]
  rfl

/-- A run with a colon is set aside. -/
theorem ofRun_colon {text : List Char} (colon : ':' ∈ text) : ofRun text = ⟨[], [], [text]⟩ :=
  ofRun_of_read?_eq_none (Text.not_isBlankText_of_mem colon (by decide))
    (Numeral.read?_colon (Text.mem_trim colon (by decide)))

/-- One run with an operator behind it. -/
theorem ofTokens_cut_last {run : List Char} (h : ∀ c ∈ run, ¬ Operator.isSymbol c)
    (op : Operator) :
    ofTokens (Token.cut [] (run ++ [op.symbol])) = ofRun run ++ ⟨[], [op], []⟩ := by
  rw [ofTokens_cut_operator h]
  rfl

theorem ofBuffer_append_operator {text : List Char} (ne : text ≠ []) (op : Operator) :
    ofBuffer (text ++ [op.symbol]) = ofTokens (Token.cut [] (text ++ [op.symbol])) := by
  apply ofBuffer_of_le
  have hpos := List.length_pos_iff.mpr ne
  rw [List.length_append, List.length_singleton]
  omega

end Split

/-! ## Expressions -/

/-- **The operands of a split**: one or two of them, and with the texts that were set aside no more
than two. -/
def Split.HasOperands (s : Split) : Prop :=
  1 ≤ s.operands.length ∧ s.operands.length + s.discarded.length ≤ 2

/-- The first run of an expression is an operand, and a second run is one more or is set aside. -/
theorem IsUnsigned.operands {text : List Char} (h : IsUnsigned text) (op : Operator) :
    (Split.ofTokens (Token.cut [] (text ++ [op.symbol]))).HasOperands := by
  obtain ⟨c, more, tail, hc, hplain, htail, rfl⟩ := h
  obtain ⟨x, read⟩ : ∃ x, Binary32.read? (c :: more) = some x :=
    ⟨_, Binary32.read?_plain hplain ⟨c, List.mem_cons_self, hc⟩⟩
  have hsymbols := Numeral.not_isSymbol_of_plain hplain
  rcases htail with rfl | ⟨inner, run, _, hrun, rfl⟩
  · rw [List.append_nil, Split.ofTokens_cut_last hsymbols, Split.ofRun_of_read? hplain read]
    exact ⟨Nat.le_refl 1, Nat.le_succ 1⟩
  · have hle := Split.length_ofRun_le run
    have htext : (c :: more ++ inner.symbol :: run) ++ [op.symbol] =
        c :: more ++ inner.symbol :: (run ++ [op.symbol]) := List.append_assoc _ _ _
    rw [htext, Split.ofTokens_cut_operator hsymbols, Split.ofRun_of_read? hplain read,
      Split.ofTokens_cut_last (Numeral.not_isSymbol_of_plain hrun)]
    simp only [Split.HasOperands, Split.append_def, List.length_append, List.length_singleton,
      List.length_nil]
    omega

theorem IsExpression.ne_nil {text : List Char} (h : IsExpression text) : text ≠ [] := by
  obtain ⟨unsigned, hu, rfl | rfl⟩ := h
  · exact hu.ne_nil
  · exact List.cons_ne_nil _ _

/-- **An expression has operands**, whatever operator is put behind it. -/
theorem IsExpression.operands {text : List Char} (h : IsExpression text) (op : Operator) :
    (Split.ofBuffer (text ++ [op.symbol])).HasOperands := by
  rw [Split.ofBuffer_append_operator h.ne_nil]
  obtain ⟨unsigned, hu, rfl | rfl⟩ := h
  · exact hu.operands op
  · rw [List.cons_append, Split.ofTokens_cut_minus]
    exact hu.operands op

/-! ## Failures -/

/-- **A marker that settings may have** is not blank, holds no operator symbol and is no number. -/
theorem Settings.markerFault?_eq_none {marker : String} (h : markerFault? marker = none) :
    ¬ Text.isBlankText marker.toList ∧ (∀ c ∈ marker.toList, ¬ Operator.isSymbol c) ∧
      Numeral.read? (Text.trim marker.toList) = none := by
  unfold markerFault? at h
  split at h
  · cases h
  next visible =>
    split at h
    · cases h
    next symbols =>
      rw [contains_reservedSymbols] at symbols
      split at h
      · cases h
      next unread => exact ⟨visible, by simpa using symbols, by simpa using unread⟩

theorem Settings.markerFault?_of_fault? {s : Settings} (h : s.fault? = none) :
    markerFault? s.display.errorMarker = none := by
  unfold fault? at h
  split at h
  · cases h
  next none => exact none

namespace Calculator

theorem failureText_ne_nil {display : Settings.Display}
    (allowed : Settings.markerFault? display.errorMarker = none) (e : ReduceError) :
    failureText display e ≠ [] := by
  obtain ⟨visible, -, -⟩ := Settings.markerFault?_eq_none allowed
  have hmarker : display.errorMarker.toList ≠ [] := by
    intro nil
    rw [nil] at visible
    exact visible rfl
  unfold failureText
  split
  · exact List.append_ne_nil_of_left_ne_nil hmarker _
  · exact hmarker

/-- The marker, the colon, and a reason without symbols are one run, and no operand. -/
theorem operands_detailed {display : Settings.Display}
    (allowed : Settings.markerFault? display.errorMarker = none) (reason : List Char)
    (symbols : reason.any Operator.isSymbol = false) (op : Operator) (rest : List Char) :
    (Split.ofTokens (Token.cut []
      (display.errorMarker.toList ++ ':' :: ' ' :: reason ++ op.symbol :: rest))).operands =
      (Split.ofTokens (Token.cut [] rest)).operands := by
  obtain ⟨-, hmarker, -⟩ := Settings.markerFault?_eq_none allowed
  have hsymbols : ∀ c ∈ display.errorMarker.toList ++ ':' :: ' ' :: reason,
      ¬ Operator.isSymbol c := by
    intro c hc
    rcases List.mem_append.mp hc with front | back
    · exact hmarker c front
    · rcases List.mem_cons.mp back with rfl | back
      · decide
      · rcases List.mem_cons.mp back with rfl | back
        · decide
        · exact List.any_eq_false.mp symbols c back
  rw [Split.ofTokens_cut_operator hsymbols,
    Split.ofRun_colon (List.mem_append_right _ List.mem_cons_self)]
  rfl

/-- **A failure has no operands**: its text is set aside, run by run. -/
theorem operands_failureText {display : Settings.Display}
    (allowed : Settings.markerFault? display.errorMarker = none) {e : ReduceError}
    (reason : e = .divisionByZero ∨ e = .unsupportedOperator '%' ∨ e = .outOfRange)
    (op : Operator) : (Split.ofBuffer (failureText display e ++ [op.symbol])).operands = [] := by
  rw [Split.ofBuffer_append_operator (failureText_ne_nil allowed e), failureText]
  split
  next detailed =>
    rcases reason with rfl | rfl | rfl
    · exact operands_detailed allowed "division by zero".toList (by decide) op []
    · -- the percent sign ends the run, and leaves a quote behind it
      have hquote : (Split.ofTokens (Token.cut [] (['\''] ++ [op.symbol]))).operands = [] := by
        rw [Split.ofTokens_cut_last (List.any_eq_false.mp rfl)]
        rfl
      have hfront := operands_detailed allowed "unsupported operator '".toList (by decide) .percent
        (['\''] ++ [op.symbol])
      rw [← hquote, ← hfront, List.append_assoc, List.append_assoc]
      rfl
    · exact operands_detailed allowed "result out of range".toList (by decide) op []
  next =>
    obtain ⟨visible, symbols, unread⟩ := Settings.markerFault?_eq_none allowed
    rw [Split.ofTokens_cut_last symbols, Split.ofRun_of_read?_eq_none visible unread]
    rfl

/-! ## Calculators -/

theorem mode_eq_idle_iff {c : Calculator} : c.mode = .idle ↔ c.readout.isFailure = false := by
  unfold mode
  cases c.readout.isFailure <;> decide

theorem isFailure_of_error {c : Calculator} (failed : c.mode = .error) : c.readout.isFailure := by
  rw [← Bool.not_eq_false, ← mode_eq_idle_iff, failed]
  decide

variable {c : Calculator}

theorem hasOperands_of_idle (h : c.readout.Legible c.display) (idle : c.mode = .idle)
    (op : Operator) : (c.splitBy op).HasOperands :=
  (h.isExpression (mode_eq_idle_iff.mp idle)).operands op

theorem operands_of_error (h : c.readout.Legible c.display)
    (allowed : Settings.markerFault? c.display.errorMarker = none) (failed : c.mode = .error) :
    (∀ op, (c.splitBy op).operands = []) ∧ c.buffer ≠ [] := by
  unfold splitBy buffer
  rw [mode] at failed
  generalize c.readout = r at *
  cases h with
  | failure reason =>
    constructor
    · intro op
      exact operands_failureText allowed reason op
    · exact failureText_ne_nil allowed _
  | _ => cases failed

/-- **A text shows one mode only**, whatever the settings of the two calculators that show it. -/
theorem mode_eq_of_buffer_eq {d : Calculator} (hc : c.readout.Legible c.display)
    (hd : d.readout.Legible d.display)
    (allowed : Settings.markerFault? d.display.errorMarker = none) (same : c.buffer = d.buffer)
    (idle : c.mode = .idle) : d.mode = .idle := by
  cases hmode : d.mode with
  | idle => rfl
  | error =>
    have hsome := (hasOperands_of_idle hc idle .add).1
    have hnone := (operands_of_error hd allowed hmode).1 .add
    rw [splitBy, ← same] at hnone
    rw [splitBy, hnone] at hsome
    exact absurd hsome (by decide)

/-- **The text alone tells a number from a failure.** With settings that have no fault, whatever
keys were pressed: put any operator behind the text and split it. Idle, it has one operand or two,
and one text at most is set aside; after a failure it has none, and the text is not empty. So what
an operator key does, when it does not clear a failure, is to reduce operands that there are. And of
two calculators with the same text, each with settings that have no fault, both show a failure or
none does. -/
theorem text_tells_mode {settings : Settings} (valid : settings.fault? = none)
    (keys : List Keystroke) (op : Operator) :
    let c := (fresh settings.display).pressAll keys
    let split := Split.ofBuffer (c.buffer ++ [op.symbol])
    (c.mode = .idle → (split.operands.length = 1 ∨ split.operands.length = 2) ∧
        split.discarded.length ≤ 1) ∧
      (c.mode = .error → split.operands = [] ∧ c.buffer ≠ []) ∧
      (c.press (.operator op) =
        match c.mode with
        | .error => { c with readout := .fresh }
        | .idle =>
          { c with
            tally := { c.tally with
              discarded := c.tally.discarded + split.discarded.length } }.conclude op
            (Reduction.reduce op split.operands)) ∧
      ∀ other : Settings, other.fault? = none → ∀ otherKeys,
        let d := (fresh other.display).pressAll otherKeys
        c.buffer = d.buffer → c.mode = d.mode := by
  intro c split
  have legible : ∀ (s : Settings) (keys : List Keystroke),
      let d := (fresh s.display).pressAll keys
      d.display = s.display ∧ d.readout.Legible d.display := by
    intro s keys d
    have hdisplay : d.display = s.display := display_pressAll _ keys
    refine ⟨hdisplay, ?_⟩
    rw [hdisplay]
    exact pressAll_legible (c := fresh s.display) Readout.legible_fresh keys
  obtain ⟨hdisplay, hc⟩ := legible settings keys
  have allowed : Settings.markerFault? c.display.errorMarker = none := by
    rw [hdisplay]
    exact Settings.markerFault?_of_fault? valid
  refine ⟨?_, ?_, ?_, ?_⟩
  · intro idle
    obtain ⟨hsome, hle⟩ := hasOperands_of_idle hc idle op
    change 1 ≤ split.operands.length at hsome
    change split.operands.length + split.discarded.length ≤ 2 at hle
    omega
  · intro failed
    obtain ⟨hnone, hne⟩ := operands_of_error hc allowed failed
    exact ⟨hnone op, hne⟩
  · cases hmode : c.mode with
    | idle =>
      have hsome := (hasOperands_of_idle hc hmode op).1
      exact evaluate_of_idle (mode_eq_idle_iff.mp hmode) (List.length_pos_iff.mp hsome)
    | error =>
      have hfailure : c.readout.isFailure = true := by
        rw [← Bool.not_eq_false, ← mode_eq_idle_iff, hmode]
        decide
      exact evaluate_of_failure hfailure
  · intro other hother otherKeys d same
    obtain ⟨hdisplay', hd⟩ := legible other otherKeys
    have allowed' : Settings.markerFault? d.display.errorMarker = none := by
      rw [hdisplay']
      exact Settings.markerFault?_of_fault? hother
    cases hmode : c.mode with
    | idle => exact (mode_eq_of_buffer_eq hc hd allowed' same hmode).symm
    | error =>
      cases hmode' : d.mode with
      | idle => rw [← hmode, mode_eq_of_buffer_eq hd hc allowed same.symm hmode']
      | error => rfl

/-- Two failures for different reasons, under different settings, with one text: the reason of the
first is written in the marker of the second. -/
theorem text_tells_mode_of_same_text :
    let detailed : Settings := { display := { errorMarker := "E", detailedErrors := true } }
    let plain : Settings := { display := { errorMarker := "E: division by zero" } }
    detailed.fault? = none ∧ plain.fault? = none ∧
      let c := (fresh detailed.display).pressAll
        [.digit '1', .operator .divide, .digit '0', .operator .divide]
      let d := (fresh plain.display).pressAll [.digit '1', .operator .percent]
      c.mode = .error ∧ c.buffer = d.buffer ∧ c.mode = d.mode ∧
        (Split.ofBuffer (c.buffer ++ ['/'])).operands = [] ∧ c.buffer ≠ [] := by
  intro detailed plain
  have hdetailed : detailed.fault? = none := by decide
  have hplain : plain.fault? = none := by decide
  refine ⟨hdetailed, hplain, ?_⟩
  intro c d
  have failed : c.mode = .error := by decide
  have same : c.buffer = d.buffer := by decide
  obtain ⟨-, hfailed, -, hsame⟩ := text_tells_mode hdetailed
    [.digit '1', .operator .divide, .digit '0', .operator .divide] .divide
  exact ⟨failed, same, hsame plain hplain _ same, hfailed failed⟩

end Calculator

end PocketCalc
