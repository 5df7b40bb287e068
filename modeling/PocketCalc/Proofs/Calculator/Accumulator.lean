import Mathlib.Data.List.Induction
import PocketCalc.Proofs.Calculator.Entry

/-!
# The accumulator behind the text

A calculator keeps nothing but its text, and yet it computes like a machine with one number in it.
Numerals are typed, each with an operator key behind it (`Term`). The machine keeps the last result
(`Term.accumulate`): the first numeral is reduced alone, and every later one together with the
result before it, which has lost its sign. The operator that counts is the one behind the numeral.

**The law** (`pressAll_terms`): after every operator key, as long as no reduction has failed before
it, the calculator shows what the machine has, and has counted one evaluation for each operator.

Between two operator keys a calculator follows the machine (`Calculator.Follows`); one term takes
what follows to what follows (`Calculator.Follows.step`), and so does a run of them.

**What it does not establish.** What keys do after a failure, or in the middle of a numeral.
-/

namespace PocketCalc

open Numeral (IsPlain)

/-! ## Runs and the texts that show them -/

/-- **A text shows a run** when it writes the same decimal, with a digit in it. The two differ only
by zeros in front. -/
structure Shows (run text : List Char) : Prop where
  plain : IsPlain text
  digit : ∃ c ∈ text, c.isDigit
  decimal : Decimal.ofPlain text = Decimal.ofPlain run
  point : '.' ∈ text ↔ '.' ∈ run

theorem Shows.takes {run text : List Char} (h : Shows run text) {symbol : Char}
    (takes : Takes run symbol) : Takes text symbol := by
  rwa [Takes, h.point]

/-- A text that shows a run goes on showing it when both get the same character. -/
theorem Shows.append {run text : List Char} (h : Shows run text) (hrun : IsPlain run)
    {symbol : Char} (takes : Takes run symbol) : Shows (run ++ [symbol]) (text ++ [symbol]) where
  plain := isPlain_append.mpr ⟨h.plain, h.takes takes⟩
  digit := by
    obtain ⟨c, hc, hdigit⟩ := h.digit
    exact ⟨c, List.mem_append_left _ hc, hdigit⟩
  decimal := by
    rcases takes with hdigit | ⟨rfl, none⟩
    · rw [Decimal.ofPlain_append_digit h.plain hdigit, Decimal.ofPlain_append_digit hrun hdigit,
        h.decimal]
      simp only [h.point]
    · have digits : ∀ {t : List Char}, IsPlain t → '.' ∉ t → ∀ c ∈ t, c.isDigit := by
        intro t ht hnot c hc
        exact (ht.1 c hc).resolve_right fun heq => hnot (heq ▸ hc)
      rw [Decimal.ofPlain_append_point (digits h.plain (mt h.point.mp none)),
        Decimal.ofPlain_append_point (digits hrun none), h.decimal]
  point := by rw [List.mem_append, List.mem_append, h.point]

/-- The first digit that is not zero takes the place of the zeros in front of it. -/
theorem Shows.replace {run : List Char} (h : Shows run Readout.emptyText) (hrun : IsPlain run)
    {symbol : Char} (hdigit : symbol.isDigit) : Shows (run ++ [symbol]) [symbol] := by
  have hnone : '.' ∉ run := mt h.point.mpr (by decide)
  refine ⟨isPlain_singleton (.inl hdigit), ⟨symbol, List.mem_singleton_self _, hdigit⟩, ?_, ?_⟩
  · have hempty : IsPlain [] := Numeral.isPlain_of_digits (List.forall_mem_nil _)
    have hone := Decimal.ofPlain_append_digit hempty hdigit
    rw [List.nil_append, if_neg List.not_mem_nil] at hone
    rw [Decimal.ofPlain_append_digit hrun hdigit, ← h.decimal, if_neg hnone, hone]
    rfl
  · have hne := (Numeral.ne_point_of_isDigit hdigit).symm
    simp [hne, hnone]

/-- **A run typed into a fresh readout** is shown, but for zeros in front. -/
theorem Readout.typeAll_fresh {run : List Char} (h : IsPlain run) :
    ∃ text, Readout.fresh.typeAll run = .entry text ∧ Shows run text := by
  induction run using List.reverseRecOn with
  | nil => exact ⟨emptyText, rfl, by decide, ⟨'0', by decide, by decide⟩, by decide, by decide⟩
  | append_singleton run symbol ih =>
    obtain ⟨hrun, takes⟩ := isPlain_append.mp h
    obtain ⟨text, htext, hshows⟩ := ih hrun
    have hsymbols := Numeral.not_isSymbol_of_plain hshows.plain
    rw [typeAll_append, htext, type, currentRun_run hsymbols,
      if_neg (hshows.takes takes).not_second]
    split
    next alone =>
      rw [alone.1] at hshows
      have hdigit := takes.resolve_right fun hpoint => alone.2 hpoint.1
      exact ⟨_, rfl, hshows.replace hrun hdigit⟩
    next => exact ⟨_, rfl, hshows.append hrun takes⟩

/-! ## The machine -/

/-- **A numeral and the operator key pressed behind it.** The numeral has a digit, and at most one
point. -/
structure Term where
  numeral : List Char
  op : Operator
  plain : IsPlain numeral
  digit : ∃ c ∈ numeral, c.isDigit

namespace Term

theorem isSome_read? (t : Term) : (Binary32.read? t.numeral).isSome := by
  rw [Binary32.read?_plain t.plain t.digit]
  rfl

/-- The number that is read from the numeral. -/
def value (t : Term) : Binary32 := (Binary32.read? t.numeral).get t.isSome_read?

/-- The keys of a term: those of its numeral, and the operator key. -/
def keys (t : Term) : List Keystroke := t.numeral.map .ofRunChar ++ [.operator t.op]

/-- **One step of the machine**: the numeral is reduced by the operator behind it, together with the
result before it, if there is one, without its sign. -/
def accumulate (t : Term) : Option Binary32 → Except ReduceError Binary32
  | none => Reduction.reduce t.op [t.value]
  | some before => Reduction.reduce t.op [before.abs, t.value]

/-- **The machine** on terms one after another, up to the first reduction that fails. -/
def accumulateAll : Option Binary32 → List Term → Except ReduceError (Option Binary32)
  | before, [] => .ok before
  | before, t :: rest => t.accumulate before >>= fun result => accumulateAll (some result) rest

theorem read?_of_shows (t : Term) {text : List Char} (h : Shows t.numeral text) :
    Binary32.read? text = some t.value := by
  rw [Binary32.read?_plain h.plain h.digit, h.decimal, ← Binary32.read?_plain t.plain t.digit,
    value, Option.some_get]

theorem shows_numeral (t : Term) : Shows t.numeral t.numeral := ⟨t.plain, t.digit, rfl, Iff.rfl⟩

end Term

/-! ## Following the machine -/

namespace Calculator

/-- Where everything that is shown can be read, evaluating is reducing what is read. -/
theorem evaluate_of_splitBy {c : Calculator} {op : Operator} {operands : List Binary32}
    {operators : List Operator} (idle : c.readout.isFailure = false)
    (split : c.splitBy op = ⟨operands, operators, []⟩) (some : operands ≠ []) :
    c.evaluate op = c.conclude op (Reduction.reduce op operands) := by
  rw [evaluate_of_idle idle (by rwa [split]), split]
  rfl

/-- **What a calculator shows between terms**, after `count` evaluations: nothing yet, or the last
result with its operator pending. -/
inductive Follows (display : Settings.Display) : Nat → Option Binary32 → Calculator → Prop where
  | fresh : Follows display 0 none (fresh display)
  | result (count : Nat) (negative : Bool) (m : Fin (255 * 2 ^ 23)) (op : Operator) :
      Follows display count (some (.finite negative m))
        ⟨display, .result (Binary32.finite negative m).plainText op, ⟨count, 0, 0⟩⟩

variable {display : Settings.Display} {count : Nat} {before : Option Binary32} {c : Calculator}

/-- **One term does what one step of the machine does.** -/
theorem Follows.pressAll_keys (h : Follows display count before c) (t : Term) :
    ∃ readout, c.pressAll t.keys =
      (Calculator.mk display readout ⟨count, 0, 0⟩).conclude t.op (t.accumulate before) := by
  rw [Term.keys, pressAll_append, pressAll_run c t.plain.1]
  cases h with
  | fresh =>
    obtain ⟨text, htext, hshows⟩ := Readout.typeAll_fresh t.plain
    have hsplit := Split.ofBuffer_run hshows.plain (t.read?_of_shows hshows) t.op
    refine ⟨.entry text, ?_⟩
    show (Calculator.mk display (Readout.fresh.typeAll t.numeral) {}).evaluate t.op = _
    rw [htext]
    exact evaluate_of_splitBy rfl hsplit (List.cons_ne_nil _ _)
  | result count negative m op =>
    have hread := t.read?_of_shows t.shows_numeral
    have hsplit := Split.ofBuffer_plainText_run negative m op t.plain hread t.op
    refine ⟨.entry ((Binary32.finite negative m).plainText ++ op.symbol :: t.numeral), ?_⟩
    show (Calculator.mk display ((Readout.result _ op).typeAll t.numeral) _).evaluate t.op = _
    rw [Readout.typeAll_result _ op (Split.ne_nil_of_read? hread) t.plain.1,
      Readout.onePoint_eq_self t.plain]
    exact evaluate_of_splitBy rfl hsplit (List.cons_ne_nil _ _)

/-- **A step lemma**: where the machine has a result, the calculator follows it. -/
theorem Follows.step (h : Follows display count before c) {t : Term} {result : Binary32}
    (ok : t.accumulate before = .ok result) :
    Follows display (count + 1) (some result) (c.pressAll t.keys) := by
  have finite : result.isFinite := by
    cases before with
    | none => exact Reduction.isFinite_of_reduce_eq_ok ok
    | some _ => exact Reduction.isFinite_of_reduce_eq_ok ok
  obtain ⟨readout, hkeys⟩ := h.pressAll_keys t
  rw [hkeys, ok]
  cases result with
  | finite negative m => exact .result (count + 1) negative m t.op
  | _ => cases finite

/-- **A run lemma**: the calculator follows the machine through any number of terms. -/
theorem Follows.run (h : Follows display count before c) {terms : List Term}
    {after : Option Binary32} (ok : Term.accumulateAll before terms = .ok after) :
    Follows display (count + terms.length) after (c.pressAll (terms.flatMap Term.keys)) := by
  induction terms generalizing count before c with
  | nil =>
    cases ok
    exact h
  | cons t rest ih =>
    rw [Term.accumulateAll] at ok
    cases hstep : t.accumulate before with
    | error e => rw [hstep] at ok; cases ok
    | ok result =>
      rw [hstep] at ok
      have := ih (h.step hstep) ok
      rwa [List.flatMap_cons, pressAll_append, List.length_cons, Nat.add_comm rest.length 1,
        ← Nat.add_assoc]

/-- **The text refines an accumulator.** A fresh calculator is given terms, and the machine has not
failed before the last of them. Where the last reduction gives a number, the calculator shows it,
with the last operator pending; where it fails, the calculator shows why. Every operator was one
evaluation, none but the last can have failed, and nothing was set aside. -/
theorem pressAll_terms (display : Settings.Display) {before : List Term}
    {accumulator : Option Binary32} (ok : Term.accumulateAll none before = .ok accumulator)
    (last : Term) :
    let c := (fresh display).pressAll ((before ++ [last]).flatMap Term.keys)
    (∀ x, last.accumulate accumulator = .ok x →
      c.buffer = x.plainText ∧ c.mode = .idle ∧ c.readout.pending? = some last.op ∧
        c.tally = ⟨before.length + 1, 0, 0⟩) ∧
      ∀ e, last.accumulate accumulator = .error e →
        c.buffer = failureText display e ∧ c.mode = .error ∧ c.readout.pending? = none ∧
          c.tally = ⟨before.length + 1, 1, 0⟩ := by
  intro c
  have hbefore := (Follows.fresh : Follows display 0 none (fresh display)).run ok
  obtain ⟨readout, hlast⟩ := hbefore.pressAll_keys last
  have hc : c = (Calculator.mk display readout ⟨before.length, 0, 0⟩).conclude last.op
      (last.accumulate accumulator) := by
    rw [← Nat.zero_add before.length, ← hlast, ← pressAll_append]
    simp only [c, List.flatMap_append, List.flatMap_singleton]
  constructor
  · intro x hx
    rw [hc, hx]
    exact ⟨rfl, rfl, rfl, rfl⟩
  · intro e he
    rw [hc, he]
    exact ⟨rfl, rfl, rfl, rfl⟩

/-- Three less five is negative, and the next operator has forgotten it: two less a half. -/
theorem pressAll_terms_after_negative :
    let three : Term := ⟨['0', '3'], .subtract, by decide, ⟨'3', by decide, by decide⟩⟩
    let five : Term := ⟨['5', '.'], .subtract, by decide, ⟨'5', by decide, by decide⟩⟩
    let half : Term := ⟨['.', '5'], .subtract, by decide, ⟨'5', by decide, by decide⟩⟩
    Term.accumulateAll none [three, five] = .ok (Binary32.read? ['-', '2']) ∧
      let c := (fresh {}).pressAll ([three, five, half].flatMap Term.keys)
      c.buffer = ['1', '.', '5'] ∧ c.mode = .idle ∧ c.readout.pending? = some .subtract ∧
        c.tally = ⟨3, 0, 0⟩ := by
  intro three five half
  have ok : Term.accumulateAll none [three, five] = .ok (Binary32.read? ['-', '2']) := by rfl
  refine ⟨ok, ?_⟩
  exact (pressAll_terms {} ok half).1 (.finite false ⟨127 * 2 ^ 23 + 2 ^ 22, by decide⟩) rfl

end Calculator

end PocketCalc
