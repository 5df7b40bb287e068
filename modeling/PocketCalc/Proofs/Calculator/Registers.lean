import PocketCalc.Proofs.Calculator.Readout

/-!
# A calculator in registers

A calculator can be kept in three registers: the text, the mode, and the operator that waits, if one
does. Each is assigned by itself, so that the three could be at odds: an operator could wait behind
a failure. A `Readout` has no place for that.

**The law** (`Calculator.registers_press`, `Calculator.registers_pressAll`): from every calculator
on, each keystroke assigns the registers what the readout says. Wherever a readout has dropped the
operator that waited, an assignment has emptied its register; and a calculator can be told from its
registers (`Calculator.registers_injective`), so the readout leaves out nothing that they hold.

**What it does not establish.** What is done to registers that are those of no calculator. No
keystrokes lead there: an operator never waits behind a failure (`Registers.pending_of_error`).
-/

namespace PocketCalc

open Readout (emptyText flipSign)

/-- **A calculator in registers.** -/
structure Registers where
  display : Settings.Display
  buffer : List Char := emptyText
  mode : Mode := .idle
  pending : Option Operator := none
  tally : Tally := {}
  deriving DecidableEq, Repr

namespace Registers

/-! ## Assignments -/

/-- The three registers as they were at first; what was counted stays. -/
def reset (r : Registers) : Registers :=
  { r with buffer := emptyText, mode := .idle, pending := none }

/-- The operator that waits is taken, and written. -/
def writePending (r : Registers) : Registers :=
  match r.pending with
  | some op => { r with buffer := r.buffer ++ [op.symbol], pending := none }
  | none => r

/-- A digit or the point joins the text, or takes the place of a lone zero. -/
def append (r : Registers) (symbol : Char) : Registers :=
  if symbol = '.' ∧ '.' ∈ currentRun r.buffer then r
  else if r.buffer = emptyText ∧ symbol ≠ '.' then { r with buffer := [symbol] }
  else { r with buffer := r.buffer ++ [symbol] }

def type (r : Registers) (symbol : Char) : Registers :=
  if r.mode = .error then
    if symbol ≠ '.' then { r.reset with buffer := [symbol] } else r.reset.writePending.append symbol
  else r.writePending.append symbol

def delete (r : Registers) : Registers :=
  if r.mode = .error then r.reset
  else
    let shorter := { r with buffer := r.buffer.dropLast, pending := none }
    if shorter.buffer = [] ∨ shorter.buffer = ['-'] then shorter.reset else shorter

def toggleSign (r : Registers) : Registers :=
  if r.mode = .error ∨ r.buffer = [] ∨ r.buffer = emptyText then r
  else { r with buffer := flipSign r.buffer, pending := none }

/-- The registers after a reduction, which is counted, and its failure too. -/
def conclude (r : Registers) (op : Operator) : Except ReduceError Binary32 → Registers
  | .ok x =>
    { r with
      buffer := x.plainText
      pending := some op
      tally := { r.tally with evaluations := r.tally.evaluations + 1 } }
  | .error e =>
    { r with
      buffer := Calculator.failureText r.display e
      mode := .error
      tally := { r.tally with
        evaluations := r.tally.evaluations + 1
        failures := r.tally.failures + 1 } }

def evaluate (r : Registers) (op : Operator) : Registers :=
  if r.mode = .error then r.reset
  else
    let written := { r with buffer := r.buffer ++ [op.symbol], pending := none }
    let split := Split.ofBuffer written.buffer
    let counted := { written with
      tally := { r.tally with discarded := r.tally.discarded + split.discarded.length } }
    if split.operands.isEmpty then counted.reset
    else counted.conclude op (Reduction.reduce op split.operands)

/-- **One keystroke.** -/
def press (r : Registers) : Keystroke → Registers
  | .digit symbol => if symbol.isDigit then r.type symbol else r
  | .decimalPoint => r.type '.'
  | .clear => r.reset
  | .delete => r.delete
  | .toggleSign => r.toggleSign
  | .operator op => r.evaluate op

/-- Keystrokes in order. -/
def pressAll (r : Registers) (keys : List Keystroke) : Registers := keys.foldl press r

end Registers

namespace Calculator

/-! ## Readouts and registers -/

/-- **The registers of a calculator.** -/
def registers (c : Calculator) : Registers :=
  ⟨c.display, c.buffer, c.mode, c.readout.pending?, c.tally⟩

/-- **A calculator can be told from its registers.** -/
theorem registers_injective : Function.Injective registers := by
  rintro ⟨display, readout, tally⟩ ⟨display', readout', tally'⟩ same
  simp only [registers, buffer, mode, Registers.mk.injEq] at same
  obtain ⟨rfl, htext, hmode, hpending, rfl⟩ := same
  cases readout <;> cases readout' <;>
    simp_all [Readout.text, Readout.pending?, Readout.isFailure]

/-- Behind a failure there is no place for an operator. -/
theorem pending?_of_error {c : Calculator} (failed : c.mode = .error) :
    c.readout.pending? = none := by
  obtain ⟨display, readout, tally⟩ := c
  cases readout with
  | result text op => cases failed
  | _ => rfl

/-! ## Keystrokes -/

/-- A symbol behind an operator begins a run of its own, and the text is no lone zero. -/
theorem append_symbol (r : Registers) (text : List Char) (op : Operator) (symbol : Char) :
    { r with buffer := text ++ [op.symbol] }.append symbol =
      { r with buffer := text ++ [op.symbol, symbol] } := by
  have hrun : currentRun (text ++ [op.symbol]) = [] :=
    currentRun_operator (List.forall_mem_nil _) text op
  have hzero : text ++ [op.symbol] ≠ emptyText := by
    intro heq
    have hlast := congrArg List.getLast? heq
    rw [List.getLast?_concat] at hlast
    cases op <;> cases hlast
  rw [Registers.append, hrun, if_neg fun second => List.not_mem_nil second.2,
    if_neg fun alone => hzero alone.1, List.append_assoc]
  rfl

theorem registers_type (c : Calculator) (symbol : Char) :
    { c with readout := c.readout.type symbol }.registers = c.registers.type symbol := by
  obtain ⟨display, readout, tally⟩ := c
  cases readout with
  | entry text =>
    show registers ⟨display, (Readout.entry text).type symbol, tally⟩ =
      Registers.append ⟨display, text, .idle, none, tally⟩ symbol
    rw [Readout.type, Registers.append]
    split
    · rfl
    · split <;> rfl
  | result text op => exact (append_symbol ⟨display, text, .idle, none, tally⟩ text op symbol).symm
  | failure text =>
    by_cases point : symbol = '.'
    · subst point
      rfl
    · show registers ⟨display, (Readout.failure text).type symbol, tally⟩ = ite _ _ _
      rw [Readout.type, if_neg point, if_pos point]
      rfl

theorem registers_delete (c : Calculator) :
    { c with readout := c.readout.delete }.registers = c.registers.delete := by
  obtain ⟨display, readout, tally⟩ := c
  cases readout with
  | failure text => rfl
  | entry text | result text op =>
    show registers ⟨display, ite (text.dropLast = [] ∨ text.dropLast = ['-']) _ _, tally⟩ =
      ite (text.dropLast = [] ∨ text.dropLast = ['-']) _ _
    split <;> rfl

theorem registers_toggleSign (c : Calculator) :
    { c with readout := c.readout.toggleSign }.registers = c.registers.toggleSign := by
  obtain ⟨display, readout, tally⟩ := c
  cases readout with
  | failure text => rfl
  | entry text | result text op =>
    show registers ⟨display, ite (text = [] ∨ text = emptyText) _ _, tally⟩ =
      ite (Mode.idle = .error ∨ text = [] ∨ text = emptyText) _ _
    simp only [reduceCtorEq, false_or]
    split <;> rfl

/-- A reduction's end is the same, whatever was shown while it was made and unless that was a
failure. -/
theorem registers_conclude (c : Calculator) (op : Operator) (buffer : List Char)
    (answer : Except ReduceError Binary32) :
    (c.conclude op answer).registers =
      Registers.conclude ⟨c.display, buffer, .idle, none, c.tally⟩ op answer := by
  cases answer <;> rfl

theorem registers_evaluate (c : Calculator) (op : Operator) :
    (c.evaluate op).registers = c.registers.evaluate op := by
  obtain ⟨display, readout, tally⟩ := c
  cases readout with
  | failure text => rfl
  | entry text | result text pending =>
    show registers (ite ((Split.ofBuffer (text ++ [op.symbol])).operands.isEmpty) _ _) =
      ite ((Split.ofBuffer (text ++ [op.symbol])).operands.isEmpty) _ _
    split
    · rfl
    · exact registers_conclude _ op _ _

/-- **Every keystroke assigns the registers what the readout says.** -/
theorem registers_press (c : Calculator) (key : Keystroke) :
    (c.press key).registers = c.registers.press key := by
  cases key with
  | digit symbol =>
    rw [press, Registers.press]
    split
    · exact registers_type c symbol
    · rfl
  | decimalPoint => exact registers_type c '.'
  | clear => rfl
  | delete => exact registers_delete c
  | toggleSign => exact registers_toggleSign c
  | operator op => exact registers_evaluate c op

/-- **And so does every sequence of keystrokes.** -/
theorem registers_pressAll (c : Calculator) (keys : List Keystroke) :
    (c.pressAll keys).registers = c.registers.pressAll keys :=
  (List.foldl_hom registers fun x key => (registers_press x key).symm).symm

end Calculator

/-- **No operator waits behind a failure**: whatever keys are pressed on fresh registers, it is
assigned away. -/
theorem Registers.pending_of_error (display : Settings.Display) (keys : List Keystroke) :
    (Registers.pressAll { display } keys).mode = .error →
      (Registers.pressAll { display } keys).pending = none := by
  have fresh : { display } = (Calculator.fresh display).registers := rfl
  rw [fresh, ← Calculator.registers_pressAll]
  exact Calculator.pending?_of_error

end PocketCalc
