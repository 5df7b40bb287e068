import PocketCalc.Proofs.Calculator.Operands

/-!
# Numbers typed key by key

Each key of a number decides from the text as it stands: its character joins the text, or takes the
place of a lone zero, or is dropped. What all the keys together make of the text can be said at
once (`Readout.typed`). The current run keeps the first point it gets (`Readout.onePoint`), and
where it has one already it gets no other (`Readout.noPoint`). A number that begins anew loses the
zeros in front of it (`Readout.asNumber`), and one behind an operator keeps them.

**The law** (`Calculator.number_entry`): any digits and points, pressed on any calculator that keys
lead to, leave it with the text that is said so, and with what it had counted.

A text of more than one character stays so while it is typed, which is why a zero is replaced only
at the beginning (`Readout.typeAll_onePoint`).
-/

namespace PocketCalc

/-! ## Typing a run -/

/-- The key of a character that a run can have. -/
def Keystroke.ofRunChar (c : Char) : Keystroke := if c = '.' then .decimalPoint else .digit c

/-- The characters of a run typed one after another. -/
def Readout.typeAll (r : Readout) (run : List Char) : Readout :=
  run.foldl (fun r symbol => r.type symbol) r

theorem Readout.typeAll_append (r : Readout) (run : List Char) (symbol : Char) :
    r.typeAll (run ++ [symbol]) = (r.typeAll run).type symbol :=
  List.foldl_concat _ _ _ _

theorem Calculator.pressAll_run (c : Calculator) {run : List Char}
    (chars : ∀ d ∈ run, d.isDigit ∨ d = '.') :
    c.pressAll (run.map .ofRunChar) = { c with readout := c.readout.typeAll run } := by
  induction run generalizing c with
  | nil => rfl
  | cons symbol rest ih =>
    obtain ⟨hsymbol, hrest⟩ := List.forall_mem_cons.mp chars
    have hpress : c.press (.ofRunChar symbol) = { c with readout := c.readout.type symbol } := by
      rw [Keystroke.ofRunChar]
      split
      next point => rw [point, press]
      next notPoint => rw [press, if_pos (hsymbol.resolve_right notPoint)]
    rw [List.map_cons]
    show (c.press (.ofRunChar symbol)).pressAll (rest.map .ofRunChar) = _
    rw [ih _ hrest, hpress]
    rfl

/-- The run that is typed grows with what is typed. -/
theorem currentRun_concat (text : List Char) {symbol : Char}
    (h : symbol.isDigit ∨ symbol = '.') :
    currentRun (text ++ [symbol]) = currentRun text ++ [symbol] := by
  have hsymbols := Numeral.not_isSymbol_of_plain (isPlain_singleton h)
  have hsymbol := not_isSymbol_reverse hsymbols symbol (List.mem_singleton_self _)
  rw [currentRun, currentRun, List.reverse_append, List.reverse_singleton, List.singleton_append,
    List.takeWhile_cons, if_pos hsymbol, List.reverse_cons]

namespace Readout

/-! ## The text that is typed -/

/-- A run without its points. -/
def noPoint (run : List Char) : List Char := run.filter (· ≠ '.')

/-- **A run without its points but the first.** -/
def onePoint : List Char → List Char
  | [] => []
  | c :: rest => if c = '.' then c :: noPoint rest else c :: onePoint rest

/-- **A run as a number of its own**: without the zeros in front of its whole part, or with one zero
where nothing else is left of that. -/
def asNumber (run : List Char) : List Char :=
  let whole := (run.takeWhile (· ≠ '.')).dropWhile (· = '0')
  (if whole = [] then emptyText else whole) ++ run.dropWhile (· ≠ '.')

/-- **The text after a run is typed**: a number of its own where one begins; otherwise the text
there was, its operator if one is pending, and the run with such points as it can have. -/
def typed (run : List Char) : Readout → List Char
  | failure _ => asNumber (onePoint run)
  | result t op => t ++ op.symbol :: onePoint run
  | entry t =>
    if t = emptyText then asNumber (onePoint run)
    else t ++ if '.' ∈ currentRun t then noPoint run else onePoint run

theorem noPoint_cons_point (rest : List Char) : noPoint ('.' :: rest) = noPoint rest :=
  List.filter_cons_of_neg (by decide)

theorem noPoint_cons {c : Char} (h : c ≠ '.') (rest : List Char) :
    noPoint (c :: rest) = c :: noPoint rest :=
  List.filter_cons_of_pos (by simpa using h)

theorem onePoint_cons_point (rest : List Char) : onePoint ('.' :: rest) = '.' :: noPoint rest :=
  if_pos rfl

theorem onePoint_cons {c : Char} (h : c ≠ '.') (rest : List Char) :
    onePoint (c :: rest) = c :: onePoint rest :=
  if_neg h

theorem noPoint_eq_self {run : List Char} (none : '.' ∉ run) : noPoint run = run := by
  rw [noPoint, List.filter_eq_self]
  intro c hc
  have hne : c ≠ '.' := fun point => none (point ▸ hc)
  simpa using hne

/-- A plain run has such points as it can have. -/
theorem onePoint_eq_self {run : List Char} (h : Numeral.IsPlain run) : onePoint run = run := by
  induction run with
  | nil => rfl
  | cons c rest ih =>
    by_cases point : c = '.'
    · subst point
      have hcount := h.2
      rw [List.count_cons_self] at hcount
      rw [onePoint_cons_point, noPoint_eq_self (List.count_eq_zero.mp (by omega))]
    · rw [onePoint_cons point, ih (h.sublist (List.sublist_cons_self c rest))]

theorem asNumber_cons_zero (rest : List Char) : asNumber ('0' :: rest) = asNumber rest := rfl

theorem asNumber_cons_point (rest : List Char) : asNumber ('.' :: rest) = ['0', '.'] ++ rest := rfl

theorem asNumber_cons {c : Char} (zero : c ≠ '0') (point : c ≠ '.') (rest : List Char) :
    asNumber (c :: rest) = c :: rest := by
  rw [asNumber, List.takeWhile_cons_of_pos (by simpa using point),
    List.dropWhile_cons_of_neg (by simpa using zero), if_neg (List.cons_ne_nil _ _),
    List.dropWhile_cons_of_pos (by simpa using point), List.cons_append,
    List.takeWhile_append_dropWhile]

/-! ## Keys one after the other -/

/-- Typing where the character neither is a second point nor takes the place of a lone zero. -/
theorem type_entry {text : List Char} {symbol : Char}
    (notSecond : ¬ (symbol = '.' ∧ '.' ∈ currentRun text))
    (notAlone : ¬ (text = emptyText ∧ symbol ≠ '.')) :
    (entry text).type symbol = entry (text ++ [symbol]) := by
  rw [type, if_neg notSecond, if_neg notAlone]

theorem concat_ne_emptyText {text : List Char} (ne : text ≠ []) (symbol : Char) :
    text ++ [symbol] ≠ emptyText := by
  intro heq
  have hlength := congrArg List.length heq
  have hpos := List.length_pos_iff.mpr ne
  rw [List.length_append, List.length_singleton, emptyText, List.length_singleton] at hlength
  omega

variable {run : List Char}

/-- Behind a point, all points are dropped. -/
theorem typeAll_noPoint {text : List Char} (point : '.' ∈ currentRun text)
    (chars : ∀ c ∈ run, c.isDigit ∨ c = '.') :
    (entry text).typeAll run = entry (text ++ noPoint run) := by
  induction run generalizing text with
  | nil => exact congrArg entry (List.append_nil text).symm
  | cons symbol rest ih =>
    obtain ⟨hsymbol, hrest⟩ := List.forall_mem_cons.mp chars
    show ((entry text).type symbol).typeAll rest = _
    by_cases second : symbol = '.'
    · rw [type, if_pos ⟨second, point⟩, ih point hrest, second, noPoint_cons_point]
    · have hne : text ≠ emptyText := by
        rintro rfl
        exact absurd point (by decide)
      have hgrown := currentRun_concat text hsymbol
      rw [type_entry (fun both => second both.1) (fun both => hne both.1),
        ih (by rw [hgrown]; exact List.mem_append_left _ point) hrest, noPoint_cons second,
        List.append_assoc, List.singleton_append]

/-- **A text without a point in its run** gets the first one, and is no lone zero to be replaced. -/
theorem typeAll_onePoint {text : List Char} (ne : text ≠ []) (notAlone : text ≠ emptyText)
    (none : '.' ∉ currentRun text) (chars : ∀ c ∈ run, c.isDigit ∨ c = '.') :
    (entry text).typeAll run = entry (text ++ onePoint run) := by
  induction run generalizing text with
  | nil => exact congrArg entry (List.append_nil text).symm
  | cons symbol rest ih =>
    obtain ⟨hsymbol, hrest⟩ := List.forall_mem_cons.mp chars
    have hgrown := currentRun_concat text hsymbol
    show ((entry text).type symbol).typeAll rest = _
    rw [type_entry (fun both => none both.2) (fun both => notAlone both.1)]
    by_cases point : symbol = '.'
    · subst point
      rw [typeAll_noPoint (by rw [hgrown]; simp) hrest, onePoint_cons_point, List.append_assoc,
        List.singleton_append]
    · have hnone : '.' ∉ currentRun (text ++ [symbol]) := by
        rw [hgrown, List.mem_append, List.mem_singleton, not_or]
        exact ⟨none, Ne.symm point⟩
      rw [ih (List.append_ne_nil_of_left_ne_nil ne _) (concat_ne_emptyText ne symbol) hnone hrest,
        onePoint_cons point, List.append_assoc, List.singleton_append]

/-- **A number that begins anew**: zeros are replaced until another digit or the point stands. -/
theorem typeAll_emptyText (chars : ∀ c ∈ run, c.isDigit ∨ c = '.') :
    (entry emptyText).typeAll run = entry (asNumber (onePoint run)) := by
  induction run with
  | nil => rfl
  | cons symbol rest ih =>
    obtain ⟨hsymbol, hrest⟩ := List.forall_mem_cons.mp chars
    by_cases point : symbol = '.'
    · subst point
      show (entry ['0', '.']).typeAll rest = _
      rw [typeAll_noPoint (by decide) hrest, onePoint_cons_point, asNumber_cons_point]
    · have hstep : (entry emptyText).type symbol = entry [symbol] := by
        rw [type, if_neg fun both => point both.1, if_pos ⟨rfl, point⟩]
      show ((entry emptyText).type symbol).typeAll rest = _
      rw [hstep, onePoint_cons point]
      by_cases zero : symbol = '0'
      · rw [zero, asNumber_cons_zero]
        exact ih hrest
      · have hrun := currentRun_run (Numeral.not_isSymbol_of_plain (isPlain_singleton hsymbol))
        have hne : [symbol] ≠ emptyText := fun heq => zero (List.singleton_inj.mp heq)
        have hnone : '.' ∉ currentRun [symbol] := by
          rw [hrun, List.mem_singleton]
          exact Ne.symm point
        rw [typeAll_onePoint (List.cons_ne_nil _ _) hne hnone hrest, asNumber_cons zero point,
          List.singleton_append]

/-- After a failure a number begins anew. -/
theorem typeAll_failure (text : List Char) (ne : run ≠ []) :
    (failure text).typeAll run = fresh.typeAll run := by
  cases run with
  | nil => exact absurd rfl ne
  | cons symbol rest =>
    show ((failure text).type symbol).typeAll rest = _
    rw [type_failure]
    rfl

/-- **A run typed after a result** stands behind the result and its operator. -/
theorem typeAll_result (text : List Char) (op : Operator) (ne : run ≠ [])
    (chars : ∀ c ∈ run, c.isDigit ∨ c = '.') :
    (result text op).typeAll run = entry (text ++ op.symbol :: onePoint run) := by
  cases run with
  | nil => exact absurd rfl ne
  | cons symbol rest =>
    obtain ⟨hsymbol, hrest⟩ := List.forall_mem_cons.mp chars
    have hsymbols := Numeral.not_isSymbol_of_plain (isPlain_singleton hsymbol)
    have hrun := currentRun_operator hsymbols text op
    show (entry (text ++ [op.symbol, symbol])).typeAll rest = _
    by_cases point : symbol = '.'
    · subst point
      rw [typeAll_noPoint (by rw [hrun]; decide) hrest, onePoint_cons_point, List.append_assoc]
      rfl
    · have hne : text ++ [op.symbol, symbol] ≠ emptyText := by
        rw [List.append_cons]
        exact concat_ne_emptyText (by simp) symbol
      have hnone : '.' ∉ currentRun (text ++ [op.symbol, symbol]) := by
        rw [hrun, List.mem_singleton]
        exact Ne.symm point
      rw [typeAll_onePoint (by simp) hne hnone hrest, onePoint_cons point, List.append_assoc]
      rfl

/-- **The keys together type the text that is said**, on every readout that keystrokes lead to. -/
theorem Legible.typeAll {display : Settings.Display} {r : Readout} (h : Legible display r)
    (ne : run ≠ []) (chars : ∀ c ∈ run, c.isDigit ∨ c = '.') :
    r.typeAll run = .entry (r.typed run) := by
  cases h with
  | failure =>
    rw [typeAll_failure _ ne]
    exact typeAll_emptyText chars
  | result => exact typeAll_result _ _ ne chars
  | entry hexpr =>
    rw [typed]
    split
    next alone =>
      rw [alone]
      exact typeAll_emptyText chars
    next notAlone =>
      split
      next point => exact typeAll_noPoint point chars
      next none => exact typeAll_onePoint hexpr.ne_nil notAlone none chars

end Readout

/-! ## Calculators -/

namespace Calculator

open Readout (noPoint onePoint asNumber)

/-- **Number entry in closed form.** However failures are to be shown and whatever keys were pressed
before, digits and points in any order and number leave a calculator idle, with no operator pending
and with the counts it had. What it shows is

- after a failure, or where nothing but a zero was shown and nothing was pending: the run as a
  number of its own, with the first of its points;
- where an operator was pending: the result, the operator, and the run with the first of its points;
- otherwise: the text before, and the run with the first of its points, or with none where the
  current run had one. -/
theorem number_entry (display : Settings.Display) (keys : List Keystroke) (run : List Char)
    (ne : run ≠ []) (chars : ∀ d ∈ run, d.isDigit ∨ d = '.') :
    let c := (fresh display).pressAll keys
    let after := c.pressAll (run.map .ofRunChar)
    (after.mode = .idle ∧ after.readout.pending? = none ∧ after.tally = c.tally) ∧
      (c.mode = .error ∨ (c.mode = .idle ∧ c.readout.pending? = none ∧ c.buffer = ['0']) →
        after.buffer = asNumber (onePoint run)) ∧
      (∀ op, c.mode = .idle → c.readout.pending? = some op →
        after.buffer = c.buffer ++ op.symbol :: onePoint run) ∧
      (c.mode = .idle → c.readout.pending? = none → c.buffer ≠ ['0'] →
        after.buffer =
          c.buffer ++ if '.' ∈ currentRun c.buffer then noPoint run else onePoint run) := by
  intro c after
  have legible : c.readout.Legible display := pressAll_legible (c := fresh display)
    Readout.legible_fresh keys
  have hafter : after = { c with readout := .entry (c.readout.typed run) } := by
    rw [← legible.typeAll ne chars]
    exact pressAll_run c chars
  have hbuffer : after.buffer = c.readout.typed run := by rw [hafter]; rfl
  refine ⟨by rw [hafter]; exact ⟨rfl, rfl, rfl⟩, ?_⟩
  rw [hbuffer, mode, buffer]
  cases c.readout with
  | failure text =>
    refine ⟨fun _ => rfl, ?_, ?_⟩
    · rintro op idle -
      cases idle
    · rintro idle - -
      cases idle
  | result text op =>
    refine ⟨?_, ?_, ?_⟩
    · rintro (failed | ⟨-, nothing, -⟩)
      · cases failed
      · cases nothing
    · rintro op' - pending
      cases pending
      rfl
    · rintro - nothing -
      cases nothing
  | entry text =>
    refine ⟨?_, ?_, ?_⟩
    · rintro (failed | ⟨-, -, zero⟩)
      · cases failed
      · exact if_pos zero
    · rintro op - pending
      cases pending
    · rintro - - notZero
      exact if_neg notZero

/-- Zeros and points to spare: after a failure, behind an operator, and behind a point. -/
theorem number_entry_spare :
    let run := ['0', '0', '7', '.', '5', '.', '2']
    (run ≠ [] ∧ ∀ d ∈ run, d.isDigit ∨ d = '.') ∧
      ((fresh {}).pressAll ([.digit '9', .operator .percent] ++ run.map .ofRunChar)).buffer =
        ['7', '.', '5', '2'] ∧
      ((fresh {}).pressAll ([.digit '9', .operator .add] ++ run.map .ofRunChar)).buffer =
        ['9', '+', '0', '0', '7', '.', '5', '2'] ∧
      ((fresh {}).pressAll ([.digit '9', .decimalPoint] ++ run.map .ofRunChar)).buffer =
        ['9', '.', '0', '0', '7', '5', '2'] := by
  intro run
  have ne : run ≠ [] := List.cons_ne_nil _ _
  have chars : ∀ d ∈ run, d.isDigit ∨ d = '.' := by simp [run]
  simp only [pressAll_append]
  refine ⟨⟨ne, chars⟩, ?_, ?_, ?_⟩
  · have failed : ((fresh {}).pressAll [.digit '9', .operator .percent]).mode = .error := by decide
    exact (number_entry {} _ run ne chars).2.1 (.inl failed)
  · have pending : ((fresh {}).pressAll [.digit '9', .operator .add]).readout.pending? =
        some .add := by decide
    exact (number_entry {} _ run ne chars).2.2.1 .add rfl pending
  · exact (number_entry {} [.digit '9', .decimalPoint] run ne chars).2.2.2 rfl rfl (by decide)

end Calculator

end PocketCalc
