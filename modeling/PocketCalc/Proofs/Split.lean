import PocketCalc.Proofs.Decimal.Layout
import PocketCalc.Split

/-!
# Splitting at the operators

Cutting a buffer ends a run at the first operator symbol and begins anew behind it
(`Token.cut_operator`), so the split of a buffer is the join of the splits of its runs with the
operators between them (`Split.ofTokens_cut_operator`). What stands behind the last symbol is the
run that is typed (`currentRun_operator`). A plain run has neither symbols nor blanks in it: it is
one token, and it is read as it stands (`Split.ofRun_plain`).

**The law** (`Split.ofBuffer_plainText`): what is read of a finite number's plain text, with one
operator behind it, is the number without its sign. The sign stands among the operators.
-/

namespace PocketCalc

open Numeral (IsPlain)

theorem Operator.ofSymbol?_eq_none {c : Char} (h : ¬ isSymbol c) : ofSymbol? c = none := by
  by_contra hsome
  exact h (isSymbol_iff.mpr (Option.ne_none_iff_exists'.mp hsome))

theorem Operator.isSymbol_symbol (op : Operator) : isSymbol op.symbol = true :=
  isSymbol_iff.mpr ⟨op, ofSymbol?_eq_some_iff.mpr rfl⟩

namespace Token

/-- **A symbol ends the run**, and another run begins behind it. -/
theorem cut_operator {text : List Char} (h : ∀ c ∈ text, ¬ Operator.isSymbol c) (begun : List Char)
    (op : Operator) (rest : List Char) :
    cut begun (text ++ op.symbol :: rest) =
      ofRun (begun ++ text) ++ .operator op :: cut [] rest := by
  induction text generalizing begun with
  | nil => rw [List.nil_append, cut, Operator.ofSymbol?_eq_some_iff.mpr rfl, List.append_nil]
  | cons c text ih =>
    have hrest : ∀ d ∈ text, ¬ Operator.isSymbol d := by
      intro d hd
      exact h d (List.mem_cons_of_mem _ hd)
    rw [List.cons_append, cut, Operator.ofSymbol?_eq_none (h c List.mem_cons_self)]
    show cut (begun ++ [c]) (text ++ op.symbol :: rest) = _
    rw [ih hrest, List.append_assoc, List.singleton_append]

theorem ofBuffer_of_le {buffer : List Char} (h : 2 ≤ buffer.length) :
    ofBuffer buffer = cut [] buffer := if_neg (Nat.not_lt.mpr h)

end Token

/-! ## The run that is typed -/

theorem not_isSymbol_reverse {run : List Char} (h : ∀ c ∈ run, ¬ Operator.isSymbol c) :
    ∀ c ∈ run.reverse, !Operator.isSymbol c := by
  intro c hc
  rw [Bool.not_eq_true', Bool.eq_false_iff]
  exact h c (List.mem_reverse.mp hc)

theorem currentRun_run {run : List Char} (h : ∀ c ∈ run, ¬ Operator.isSymbol c) :
    currentRun run = run := by
  rw [currentRun, List.takeWhile_eq_self_iff.mpr (not_isSymbol_reverse h), List.reverse_reverse]

/-- The run behind the last symbol is the one that is typed. -/
theorem currentRun_operator {run : List Char} (h : ∀ c ∈ run, ¬ Operator.isSymbol c)
    (front : List Char) (op : Operator) : currentRun (front ++ op.symbol :: run) = run := by
  rw [currentRun, List.reverse_append, List.reverse_cons, List.append_assoc,
    List.takeWhile_append_of_pos (not_isSymbol_reverse h), List.singleton_append,
    List.takeWhile_cons_of_neg (by rw [op.isSymbol_symbol]; decide), List.append_nil,
    List.reverse_reverse]

/-! ## Plain runs -/

namespace Numeral

theorem not_isSymbol_of_plain {text : List Char} (h : IsPlain text) :
    ∀ c ∈ text, ¬ Operator.isSymbol c := by
  intro c hc hsymbol
  obtain ⟨op, hop⟩ := Operator.isSymbol_iff.mp hsymbol
  obtain rfl := Operator.ofSymbol?_eq_some_iff.mp hop
  have := h.1 _ hc
  revert this
  cases op <;> decide

theorem not_isBlank_of_plain {text : List Char} (h : IsPlain text) :
    ∀ c ∈ text, ¬ Text.isBlank c := by
  intro c hc
  rcases h.1 c hc with digit | rfl
  · have hbounds := Char.isDigit_iff_toNat.mp digit
    have zero : '0'.toNat = 48 := rfl
    have nine : '9'.toNat = 57 := rfl
    simp only [Text.isBlank, Bool.or_eq_true, Bool.and_eq_true, decide_eq_true_eq]
    omega
  · decide

end Numeral

namespace Text

theorem trim_of_not_isBlank {text : List Char} (h : ∀ c ∈ text, ¬ isBlank c) :
    trim text = text := by
  have keep : ∀ {t : List Char}, (∀ c ∈ t, ¬ isBlank c) → trimLeft t = t := by
    intro t ht
    cases t with
    | nil => rfl
    | cons c rest => exact List.dropWhile_cons_of_neg (ht c List.mem_cons_self)
  rw [trim, keep h, keep fun c hc => h c (List.mem_reverse.mp hc), List.reverse_reverse]

end Text

namespace Split

/-- **The split of one run.** -/
def ofRun (text : List Char) : Split := ofTokens (Token.ofRun text)

/-- A plain run is a number, or else it is set aside as it stands. -/
theorem ofRun_plain {text : List Char} (h : IsPlain text) (ne : text ≠ []) :
    ofRun text = match Binary32.read? text with
      | some x => ⟨[x], [], []⟩
      | none => ⟨[], [], [text]⟩ := by
  have hblank : ¬ Text.isBlankText text := by
    obtain ⟨c, hc⟩ := List.exists_mem_of_ne_nil text ne
    exact fun all => Numeral.not_isBlank_of_plain h c hc (List.all_eq_true.mp all c hc)
  rw [ofRun, Token.ofRun, if_neg hblank, ofTokens, List.foldr_cons, List.foldr_nil, ofToken,
    Text.trim_of_not_isBlank (Numeral.not_isBlank_of_plain h)]
  cases Binary32.read? text <;> rfl

theorem ne_nil_of_read? {text : List Char} {x : Binary32}
    (read : Binary32.read? text = some x) : text ≠ [] := by
  rintro rfl
  have none : Binary32.read? [] = none := by decide
  rw [none] at read
  cases read

theorem ofRun_of_read? {text : List Char} (h : IsPlain text) {x : Binary32}
    (read : Binary32.read? text = some x) : ofRun text = ⟨[x], [], []⟩ := by
  rw [ofRun_plain h (ne_nil_of_read? read), read]

/-- **Splitting at the first operator.** -/
theorem ofTokens_cut_operator {text : List Char} (h : ∀ c ∈ text, ¬ Operator.isSymbol c)
    (op : Operator) (rest : List Char) :
    ofTokens (Token.cut [] (text ++ op.symbol :: rest)) =
      ofRun text ++ (⟨[], [op], []⟩ ++ ofTokens (Token.cut [] rest)) := by
  rw [Token.cut_operator h, ofTokens_append]
  rfl

/-- **A minus sign in front** is one more operator, and nothing stands in front of it. -/
theorem ofTokens_cut_minus (text : List Char) :
    ofTokens (Token.cut [] ('-' :: text)) =
      ⟨[], [.subtract], []⟩ ++ ofTokens (Token.cut [] text) :=
  ofTokens_cut_operator (List.forall_mem_nil _) .subtract text

theorem ofBuffer_of_le {buffer : List Char} (h : 2 ≤ buffer.length) :
    ofBuffer buffer = ofTokens (Token.cut [] buffer) := by
  rw [ofBuffer, Token.ofBuffer_of_le h]

/-- A run that is a number, with an operator at the end of the buffer. -/
theorem ofTokens_cut_run {run : List Char} (h : IsPlain run) {x : Binary32}
    (read : Binary32.read? run = some x) (op : Operator) :
    ofTokens (Token.cut [] (run ++ [op.symbol])) = ⟨[x], [op], []⟩ := by
  rw [ofTokens_cut_operator (Numeral.not_isSymbol_of_plain h), ofRun_of_read? h read]
  rfl

theorem ofBuffer_run {run : List Char} (h : IsPlain run) {x : Binary32}
    (read : Binary32.read? run = some x) (op : Operator) :
    ofBuffer (run ++ [op.symbol]) = ⟨[x], [op], []⟩ := by
  have hlength : 2 ≤ (run ++ [op.symbol]).length := by
    have hpos := List.length_pos_iff.mpr (ne_nil_of_read? read)
    rw [List.length_append, List.length_singleton]
    omega
  rw [ofBuffer_of_le hlength, ofTokens_cut_run h read]

end Split

/-! ## Tokens -/

/-- The number of a token, if it is a run and can be read. -/
def Token.operand? : Token → Option Binary32
  | .run text => Binary32.read? (Text.trim text)
  | .operator _ => none

/-! ## Results -/

theorem Binary32.plainText_finite (negative : Bool) (m : Fin (255 * 2 ^ 23)) :
    (Binary32.finite negative m).plainText =
      if negative ∧ m.val ≠ 0 then '-' :: Decimal.magnitudeText m else Decimal.magnitudeText m := by
  by_cases zero : m.val = 0
  · rw [plainText, isZero, zero]
    simp only [decide_true, if_true, ne_eq, not_true_eq_false, and_false, if_false]
    rfl
  · rw [plainText, isZero, decide_eq_false zero]
    simp only [Bool.false_eq_true, if_false, ne_eq, zero, not_false_eq_true, and_true]
    rfl

namespace Split

/-- The operators that a result's sign leaves in the split of its text. -/
def signOperators (negative : Bool) (m : Fin (255 * 2 ^ 23)) : List Operator :=
  if negative ∧ m.val ≠ 0 then [.subtract] else []

/-- **A result's text in front of an operator** is split into the number without its sign, the sign
and the operator, whatever comes behind. -/
theorem ofTokens_cut_plainText (negative : Bool) (m : Fin (255 * 2 ^ 23)) (op : Operator)
    (rest : List Char) :
    ofTokens (Token.cut [] ((Binary32.finite negative m).plainText ++ op.symbol :: rest)) =
      ⟨[.finite false m], signOperators negative m ++ [op], []⟩ ++
        ofTokens (Token.cut [] rest) := by
  have hplain := Decimal.isPlain_magnitudeText m
  have hmagnitude : ofTokens (Token.cut [] (Decimal.magnitudeText m ++ op.symbol :: rest)) =
      ⟨[.finite false m], [op], []⟩ ++ ofTokens (Token.cut [] rest) := by
    rw [ofTokens_cut_operator (Numeral.not_isSymbol_of_plain hplain),
      ofRun_of_read? hplain (Decimal.read?_magnitudeText m)]
    rfl
  rw [Binary32.plainText_finite, signOperators]
  split
  · rw [List.cons_append, ofTokens_cut_minus, hmagnitude]
    rfl
  · exact hmagnitude

theorem length_plainText_pos (negative : Bool) (m : Fin (255 * 2 ^ 23)) :
    0 < (Binary32.finite negative m).plainText.length := by
  obtain ⟨c, rest, htext, _⟩ := Decimal.exists_cons_magnitudeText m
  rw [Binary32.plainText_finite, htext]
  split <;> exact Nat.succ_pos _

theorem ofBuffer_plainText_operator (negative : Bool) (m : Fin (255 * 2 ^ 23)) (op : Operator)
    (rest : List Char) :
    ofBuffer ((Binary32.finite negative m).plainText ++ op.symbol :: rest) =
      ⟨[.finite false m], signOperators negative m ++ [op], []⟩ ++
        ofTokens (Token.cut [] rest) := by
  have hlength : 2 ≤ ((Binary32.finite negative m).plainText ++ op.symbol :: rest).length := by
    have hpos := length_plainText_pos negative m
    rw [List.length_append, List.length_cons]
    omega
  rw [ofBuffer_of_le hlength, ofTokens_cut_plainText]

/-- **What is shown is what is computed with**, but for the sign. -/
theorem ofBuffer_plainText (negative : Bool) (m : Fin (255 * 2 ^ 23)) (op : Operator) :
    ofBuffer ((Binary32.finite negative m).plainText ++ [op.symbol]) =
      ⟨[.finite false m], signOperators negative m ++ [op], []⟩ := by
  rw [ofBuffer_plainText_operator]
  simp [append_def, Token.cut, Token.ofRun, Text.isBlankText, ofTokens]

/-- A result, its operator and a number behind them are two operands. -/
theorem ofBuffer_plainText_run (negative : Bool) (m : Fin (255 * 2 ^ 23)) (op : Operator)
    {run : List Char} (h : IsPlain run) {x : Binary32} (read : Binary32.read? run = some x)
    (last : Operator) :
    ofBuffer ((Binary32.finite negative m).plainText ++ op.symbol :: run ++ [last.symbol]) =
      ⟨[.finite false m, x], signOperators negative m ++ [op] ++ [last], []⟩ := by
  rw [List.append_assoc, List.cons_append, ofBuffer_plainText_operator, ofTokens_cut_run h read]
  rfl

end Split

end PocketCalc
