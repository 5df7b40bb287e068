import PocketCalc.Calculator.Trace
import PocketCalc.Proofs.Calculator.Operands

/-!
# What is counted is what is told

A calculator counts, and tells the log, in different places: the split tells of the runs it sets
aside, a reduction of its result, the calculator of failures and of every keystroke. A **stroke** is
a keystroke with the calculator that it comes to, and its **outcome** (`Stroke.outcome`) settles
both: the headlines it tells (`Stroke.headlines_details`) and what it adds to the tally
(`Stroke.tally_after`).

**The law** (`Accounted.press`, `Accounted.pressAll`): tally, log and strokes agree after every
keystroke, if they did before.

**What it does not establish.** What a collector keeps of the log: see `Log.Collector`.
-/

namespace PocketCalc

/-! ## Headlines -/

namespace Log

/-- The level of an event, and its sentence. -/
def Event.headline (e : Event) : Level × String := (e.level, (Entry.ofEvent e).message)

theorem Event.headline_of {level : Level} {target message : String}
    {fields : List (String × String)} (h : ∀ field ∈ fields, field.1 ≠ messageField) :
    (Event.of level target message fields).headline = (level, message) := by
  rw [headline, Entry.ofEvent_of h]
  rfl

/-- **How many events have a headline.** -/
def count (headline : Level × String) (events : List Event) : Nat :=
  (events.map Event.headline).count headline

theorem count_append (headline : Level × String) (a b : List Event) :
    count headline (a ++ b) = count headline a + count headline b := by
  rw [count, List.map_append, List.count_append]
  rfl

end Log

/-- **A digit key with another character on it.** -/
def Keystroke.isStray : Keystroke → Bool
  | .digit symbol => !symbol.isDigit
  | _ => false

namespace Calculator

theorem headline_ignoredEvent (symbol : Char) :
    (ignoredEvent symbol).headline = (.warn, "ignoring non-digit symbol") :=
  Log.Event.headline_of (by simp [Log.messageField])

theorem headline_failedEvent (op : Operator) (operands : List Binary32) (e : ReduceError) :
    (failedEvent op operands e).headline = (.warn, "evaluation failed") :=
  Log.Event.headline_of (by simp [Log.messageField])

theorem headline_handledEvent (key : Keystroke) (after : Calculator) :
    (handledEvent key after).headline = (.trace, "handled keystroke") :=
  Log.Event.headline_of (by simp [Log.messageField])

/-- A split has one headline for each run that it sets aside. -/
theorem headlines_split (s : Split) :
    s.events.map Log.Event.headline =
      List.replicate s.discarded.length (.debug, "discarding malformed token") := by
  rw [Split.events, List.map_map, List.eq_replicate_iff]
  refine ⟨List.length_map _, ?_⟩
  intro headline h
  obtain ⟨text, -, rfl⟩ := List.mem_map.mp h
  exact Log.Event.headline_of (by simp [Log.messageField])

/-- A reduction has one headline, whichever way it ends. -/
theorem headlines_reduction (op : Operator) (operands : List Binary32) :
    (reductionEvents op operands).map Log.Event.headline =
      match Reduction.reduce op operands with
      | .ok _ => [(.debug, "reduced operands")]
      | .error _ => [(.warn, "evaluation failed")] := by
  unfold reductionEvents Reduction.events
  cases Reduction.reduce op operands with
  | ok x => exact congrArg (· :: []) (Log.Event.headline_of (by simp [Log.messageField]))
  | error e => exact congrArg (· :: []) (headline_failedEvent op operands e)

/-! ## Strokes -/

/-- Editing a text that is no failure's does not make it one. -/
theorem mode_edit {c : Calculator} (idle : c.mode = .idle) {key : Keystroke}
    (edit : ∀ op, key ≠ .operator op) : (c.press key).mode = .idle := by
  have typed : ∀ symbol, (c.readout.type symbol).isFailure = false := by
    intro symbol
    cases c.readout with
    | entry text =>
      rw [Readout.type]
      split
      · rfl
      · split <;> rfl
    | _ => rfl
  rw [mode_eq_idle_iff] at idle ⊢
  cases key with
  | digit symbol =>
    rw [press]
    split
    · exact typed symbol
    · exact idle
  | decimalPoint => exact typed '.'
  | clear => rfl
  | delete =>
    show c.readout.delete.isFailure = false
    rw [Readout.delete_of_idle idle]
    split <;> rfl
  | toggleSign =>
    show c.readout.toggleSign.isFailure = false
    rw [Readout.toggleSign_of_idle idle]
    split
    · exact idle
    · rfl
  | operator op => exact absurd rfl (edit op)

/-- **A keystroke, and the calculator that it comes to.** -/
structure Stroke where
  before : Calculator
  key : Keystroke

/-- The strokes of keystrokes that come one after the other. -/
def strokes (c : Calculator) : List Keystroke → List Stroke
  | [] => []
  | key :: rest => ⟨c, key⟩ :: (c.press key).strokes rest

/-- **How a stroke ends.** -/
inductive Outcome where
  /-- The text is edited, cleared, or left alone. -/
  | edit
  /-- The keystroke is ignored. -/
  | stray
  /-- A result, with so many runs set aside. -/
  | result (discarded : Nat)
  /-- A failure, with so many runs set aside. -/
  | failure (discarded : Nat)

namespace Outcome

/-- What is told on the way to an outcome. -/
def headlines : Outcome → List (Log.Level × String)
  | edit => []
  | stray => [(.warn, "ignoring non-digit symbol")]
  | result discarded =>
    List.replicate discarded (.debug, "discarding malformed token") ++
      [(.debug, "reduced operands")]
  | failure discarded =>
    List.replicate discarded (.debug, "discarding malformed token") ++
      [(.warn, "evaluation failed")]

/-- Operands were reduced, whether to a result or not. -/
def isEvaluation : Outcome → Bool
  | result _ => true
  | failure _ => true
  | _ => false

def isFailure : Outcome → Bool
  | failure _ => true
  | _ => false

def isStray : Outcome → Bool
  | stray => true
  | _ => false

/-- How many runs were set aside. -/
def discarded : Outcome → Nat
  | result discarded => discarded
  | failure discarded => discarded
  | _ => 0

/-- The tally after an outcome. -/
def addTo (o : Outcome) (tally : Tally) : Tally where
  evaluations := tally.evaluations + if o.isEvaluation then 1 else 0
  failures := tally.failures + if o.isFailure then 1 else 0
  discarded := tally.discarded + o.discarded

variable (o : Outcome)

theorem count_malformed :
    o.headlines.count (.debug, "discarding malformed token") = o.discarded := by
  cases o <;> simp [headlines, discarded]

theorem count_failed :
    o.headlines.count (.warn, "evaluation failed") = if o.isFailure then 1 else 0 := by
  cases o <;> simp [headlines, isFailure, List.count_replicate]

/-- An evaluation that did not fail is told as a reduction. -/
theorem count_reduced :
    o.headlines.count (.debug, "reduced operands") + (if o.isFailure then 1 else 0) =
      if o.isEvaluation then 1 else 0 := by
  cases o <;> simp [headlines, isFailure, isEvaluation, List.count_replicate]

/-- That a keystroke was handled is not told on the way. -/
theorem count_handled : o.headlines.count (.trace, "handled keystroke") = 0 := by
  cases o <;> simp [headlines, List.count_replicate]

theorem count_ignored :
    o.headlines.count (.warn, "ignoring non-digit symbol") = if o.isStray then 1 else 0 := by
  cases o <;> simp [headlines, isStray, List.count_replicate]

end Outcome

namespace Stroke

def after (s : Stroke) : Calculator := s.before.press s.key

/-- What the stroke tells the log. -/
def events (s : Stroke) : List Log.Event := s.before.events s.key

/-- **An operator key that is pressed while no failure is shown.** -/
def evaluates (s : Stroke) : Bool :=
  match s.key with
  | .operator _ => s.before.mode = .idle
  | _ => false

/-- **A step into a failure.** -/
def fails (s : Stroke) : Bool := s.before.mode = .idle && s.after.mode = .error

def outcome (s : Stroke) : Outcome :=
  match s.key with
  | .digit symbol => if symbol.isDigit then .edit else .stray
  | .operator op =>
    match s.before.mode with
    | .error => .edit
    | .idle =>
      match Reduction.reduce op (s.before.splitBy op).operands with
      | .ok _ => .result (s.before.splitBy op).discarded.length
      | .error _ => .failure (s.before.splitBy op).discarded.length
  | _ => .edit

variable {s : Stroke}

/-- An operator key reduces what there is to reduce, while no failure is shown. -/
theorem after_of_idle {op : Operator} (h : s.before.readout.Legible s.before.display)
    (key : s.key = .operator op) (idle : s.before.mode = .idle) :
    s.after =
      { s.before with
        tally := { s.before.tally with
          discarded := s.before.tally.discarded +
            (s.before.splitBy op).discarded.length } }.conclude op
        (Reduction.reduce op (s.before.splitBy op).operands) := by
  rw [after, key]
  exact evaluate_of_idle (mode_eq_idle_iff.mp idle)
    (List.length_pos_iff.mp (hasOperands_of_idle h idle op).1)

theorem after_of_error {op : Operator} (key : s.key = .operator op)
    (failed : s.before.mode = .error) : s.after = { s.before with readout := .fresh } := by
  rw [after, key]
  exact evaluate_of_failure (isFailure_of_error failed)

/-! ## What an outcome settles -/

/-- **What a stroke tells before it is handled.** -/
theorem headlines_details (h : s.before.readout.Legible s.before.display) :
    (s.before.detailEvents s.key).map Log.Event.headline = s.outcome.headlines := by
  unfold outcome detailEvents
  cases hkey : s.key with
  | digit symbol =>
    simp only
    split
    · rfl
    · exact congrArg (· :: []) (headline_ignoredEvent symbol)
  | operator op =>
    simp only
    unfold evaluateEvents
    cases hmode : s.before.mode with
    | error => rw [if_pos (isFailure_of_error hmode)]; rfl
    | idle =>
      have some : ¬ (s.before.splitBy op).operands.isEmpty := by
        rw [List.isEmpty_iff]
        exact List.length_pos_iff.mp (hasOperands_of_idle h hmode op).1
      simp only [mode_eq_idle_iff.mp hmode, Bool.false_eq_true, if_false, some, List.map_append,
        headlines_split, headlines_reduction]
      cases Reduction.reduce op (s.before.splitBy op).operands <;> rfl
  | _ => rfl

/-- **What a stroke adds to the tally.** -/
theorem tally_after (h : s.before.readout.Legible s.before.display) :
    s.after.tally = s.outcome.addTo s.before.tally := by
  unfold outcome
  cases hkey : s.key with
  | digit symbol =>
    rw [after, hkey, press]
    simp only
    split <;> rfl
  | operator op =>
    simp only
    cases hmode : s.before.mode with
    | error => rw [after_of_error hkey hmode]; rfl
    | idle =>
      rw [after_of_idle h hkey hmode]
      cases Reduction.reduce op (s.before.splitBy op).operands <;> rfl
  | _ => rw [after, hkey]; rfl

theorem isStray_key (s : Stroke) : s.key.isStray = s.outcome.isStray := by
  unfold outcome Keystroke.isStray
  cases s.key with
  | digit symbol =>
    simp only
    cases symbol.isDigit <;> rfl
  | operator op =>
    simp only
    cases s.before.mode with
    | error => rfl
    | idle =>
      simp only
      cases Reduction.reduce op (s.before.splitBy op).operands <;> rfl
  | _ => rfl

theorem evaluates_eq (s : Stroke) : s.evaluates = s.outcome.isEvaluation := by
  unfold outcome evaluates
  cases s.key with
  | digit symbol =>
    simp only
    cases symbol.isDigit <;> rfl
  | operator op =>
    simp only
    cases s.before.mode with
    | error => rfl
    | idle =>
      simp only
      cases Reduction.reduce op (s.before.splitBy op).operands <;> rfl
  | _ => rfl

theorem fails_of_edit (edit : ∀ op, s.key ≠ .operator op) : s.fails = false := by
  unfold fails
  cases hmode : s.before.mode with
  | error => rfl
  | idle => rw [after, mode_edit hmode edit]; rfl

/-- **Only an operator key leads into a failure**, when its operands cannot be reduced. -/
theorem fails_eq (h : s.before.readout.Legible s.before.display) :
    s.fails = s.outcome.isFailure := by
  cases hkey : s.key with
  | operator op =>
    unfold outcome fails
    rw [hkey]
    simp only
    cases hmode : s.before.mode with
    | error => rfl
    | idle =>
      rw [after_of_idle h hkey hmode]
      simp only
      cases Reduction.reduce op (s.before.splitBy op).operands <;> rfl
  | digit symbol =>
    rw [fails_of_edit (by simp [hkey]), outcome, hkey]
    cases hdigit : symbol.isDigit <;> simp [hdigit, Outcome.isFailure]
  | _ =>
    rw [fails_of_edit (by simp [hkey]), outcome, hkey]
    rfl

/-- What a stroke tells, counted for any headline but the last. -/
theorem count_events (h : s.before.readout.Legible s.before.display)
    {headline : Log.Level × String} (other : headline ≠ (.trace, "handled keystroke")) :
    Log.count headline s.events = s.outcome.headlines.count headline := by
  have last : Log.count headline [handledEvent s.key s.after] = 0 := by
    rw [Log.count, List.map_singleton, headline_handledEvent, List.count_singleton]
    exact if_neg (by simpa using other.symm)
  rw [events, Calculator.events, Log.count_append]
  show _ + Log.count headline [handledEvent s.key s.after] = _
  rw [last, Log.count, headlines_details h, Nat.add_zero]

end Stroke

/-! ## The account -/

/-- **Tally, strokes and log agree.** -/
structure Accounted (c : Calculator) (strokes : List Stroke) (log : List Log.Event) : Prop where
  malformed : Log.count (.debug, "discarding malformed token") log = c.tally.discarded
  failed : Log.count (.warn, "evaluation failed") log = c.tally.failures
  reduced : Log.count (.debug, "reduced operands") log + c.tally.failures = c.tally.evaluations
  ignored : Log.count (.warn, "ignoring non-digit symbol") log = strokes.countP (·.key.isStray)
  evaluations : c.tally.evaluations = strokes.countP Stroke.evaluates
  failures : c.tally.failures = strokes.countP Stroke.fails

theorem accounted_fresh (display : Settings.Display) : Accounted (fresh display) [] [] :=
  ⟨rfl, rfl, rfl, rfl, rfl, rfl⟩

/-- **Every stroke keeps the account.** -/
theorem Accounted.press {s : Stroke} {strokes : List Stroke} {log : List Log.Event}
    (h : Accounted s.before strokes log) (legible : s.before.readout.Legible s.before.display) :
    Accounted s.after (strokes ++ [s]) (log ++ s.events) := by
  have counts : ∀ {headline}, headline ≠ (.trace, "handled keystroke") →
      Log.count headline s.events = s.outcome.headlines.count headline :=
    Stroke.count_events legible
  have tally := Stroke.tally_after legible
  constructor
  case malformed =>
    rw [Log.count_append, h.malformed, counts (by decide), Outcome.count_malformed, tally]
    rfl
  case failed =>
    rw [Log.count_append, h.failed, counts (by decide), Outcome.count_failed, tally]
    rfl
  case reduced =>
    have := s.outcome.count_reduced
    have := h.reduced
    rw [Log.count_append, counts (by decide), tally]
    simp only [Outcome.addTo]
    omega
  case ignored =>
    rw [Log.count_append, h.ignored, counts (by decide), Outcome.count_ignored,
      List.countP_append, List.countP_singleton, Stroke.isStray_key]
  case evaluations =>
    rw [List.countP_append, List.countP_singleton, ← h.evaluations, Stroke.evaluates_eq, tally]
    rfl
  case failures =>
    rw [List.countP_append, List.countP_singleton, ← h.failures, Stroke.fails_eq legible, tally]
    rfl

variable {c : Calculator}

theorem press_legible_display (h : c.readout.Legible c.display) (key : Keystroke) :
    (c.press key).readout.Legible (c.press key).display := by
  rw [display_press]
  exact press_legible h key

/-- **Every sequence of keystrokes keeps the account.** -/
theorem Accounted.pressAll {strokes : List Stroke} {log : List Log.Event}
    (h : Accounted c strokes log) (legible : c.readout.Legible c.display)
    (keys : List Keystroke) :
    Accounted (c.pressAll keys) (strokes ++ c.strokes keys) (log ++ c.eventsAll keys) := by
  induction keys generalizing c strokes log with
  | nil =>
    show Accounted c (strokes ++ []) (log ++ [])
    rwa [List.append_nil, List.append_nil]
  | cons key rest ih =>
    have hrest := ih (h.press (s := ⟨c, key⟩) legible) (press_legible_display legible key)
    rw [List.append_assoc, List.append_assoc] at hrest
    exact hrest

/-! ## Stroke by stroke -/

theorem map_key_strokes (c : Calculator) (keys : List Keystroke) :
    (c.strokes keys).map Stroke.key = keys := by
  induction keys generalizing c with
  | nil => rfl
  | cons key rest ih => exact congrArg (key :: ·) (ih (c.press key))

/-- The log is what the strokes tell, one after the other. -/
theorem eventsAll_eq_flatMap (c : Calculator) (keys : List Keystroke) :
    c.eventsAll keys = (c.strokes keys).flatMap Stroke.events := by
  induction keys generalizing c with
  | nil => rfl
  | cons key rest ih => exact congrArg (c.events key ++ ·) (ih (c.press key))

theorem legible_of_mem_strokes (h : c.readout.Legible c.display) {keys : List Keystroke}
    {s : Stroke} (mem : s ∈ c.strokes keys) : s.before.readout.Legible s.before.display := by
  induction keys generalizing c with
  | nil => cases mem
  | cons key rest ih =>
    rcases List.mem_cons.mp mem with rfl | mem
    · exact h
    · exact ih (press_legible_display h key) mem

/-- **Tally, log and keystrokes agree.** However failures are shown and whatever keys are pressed on
a fresh calculator, the log is told stroke by stroke. The last that a stroke tells is that it was
handled, with the text and the mode after it, and it tells so once. The runs set aside, the failures
and the strays are told as often as they are counted, and the reductions told are the evaluations
that did not fail. The evaluations are the operator keys pressed while no failure is shown, and the
failures are the steps into one. -/
theorem tally_is_told (display : Settings.Display) (keys : List Keystroke) :
    let c := (fresh display).pressAll keys
    let strokes := (fresh display).strokes keys
    let log := (fresh display).eventsAll keys
    (strokes.map Stroke.key = keys ∧ log = strokes.flatMap Stroke.events ∧
        ∀ s ∈ strokes, ∃ details,
          s.events = details ++ [.of .trace target "handled keystroke"
            [("event", s.key.text), ("buffer", String.ofList s.after.buffer),
              ("state", s.after.mode.name)]] ∧
          Log.count (.trace, "handled keystroke") details = 0) ∧
      Log.count (.debug, "discarding malformed token") log = c.tally.discarded ∧
      Log.count (.warn, "evaluation failed") log = c.tally.failures ∧
      Log.count (.debug, "reduced operands") log + c.tally.failures = c.tally.evaluations ∧
      Log.count (.warn, "ignoring non-digit symbol") log = keys.countP Keystroke.isStray ∧
      c.tally.evaluations = strokes.countP Stroke.evaluates ∧
      c.tally.failures = strokes.countP Stroke.fails := by
  intro c strokes log
  have legible : (fresh display).readout.Legible (fresh display).display := Readout.legible_fresh
  have account : Accounted c strokes log := (accounted_fresh display).pressAll legible keys
  have hkeys : strokes.map Stroke.key = keys := map_key_strokes _ keys
  refine ⟨⟨hkeys, eventsAll_eq_flatMap _ keys, ?_⟩, account.malformed, account.failed,
    account.reduced, ?_, account.evaluations, account.failures⟩
  · intro s hs
    refine ⟨s.before.detailEvents s.key, rfl, ?_⟩
    rw [Log.count, Stroke.headlines_details (legible_of_mem_strokes legible hs),
      Outcome.count_handled]
  · rw [account.ignored, ← hkeys, List.countP_map]
    rfl

/-- An operator key that clears a failure is no evaluation. -/
example : ((fresh {}).pressAll [.digit '1', .operator .divide, .digit '0', .operator .divide,
    .operator .add]).tally = ⟨2, 1, 0⟩ := by decide

end Calculator

end PocketCalc
