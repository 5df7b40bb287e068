import Mathlib.Data.List.SplitBy
import PocketCalc.Proofs.Split

/-!
# Cutting and writing

Cutting a buffer into tokens and writing tokens into a buffer (`Token.render`) undo each other as
far as they can. A buffer is a row of runs with a symbol behind each but the last
(`Token.runInduction`), and what cutting drops of it is its blank runs.

**The law** (`Token.ofBuffer_inverts_render`): what cutting answers is well formed, writing it gives
the buffer back without its blank runs, and a well-formed list that was written is what cutting
answers.

**What it does not establish.** Anything of buffers with fewer than two characters, which have no
tokens.
-/

namespace PocketCalc.Token

variable {text : List Char}

/-! ## Buffers, run by run -/

/-- **A buffer is one run, or a run and a symbol in front of another buffer.** -/
@[elab_as_elim]
theorem runInduction {motive : List Char → Prop}
    (run : ∀ text, (∀ c ∈ text, ¬ Operator.isSymbol c) → motive text)
    (operator : ∀ text (op : Operator) rest, (∀ c ∈ text, ¬ Operator.isSymbol c) → motive rest →
      motive (text ++ op.symbol :: rest))
    (buffer : List Char) : motive buffer := by
  -- the run that has begun grows until a symbol ends it
  suffices ∀ begun : List Char, (∀ c ∈ begun, ¬ Operator.isSymbol c) → motive (begun ++ buffer) from
    this [] (List.forall_mem_nil _)
  induction buffer with
  | nil =>
    intro begun plain
    rw [List.append_nil]
    exact run begun plain
  | cons c rest ih =>
    intro begun plain
    by_cases symbol : Operator.isSymbol c
    · obtain ⟨op, hop⟩ := Operator.isSymbol_iff.mp symbol
      obtain rfl := Operator.ofSymbol?_eq_some_iff.mp hop
      exact operator begun op rest plain (ih [] (List.forall_mem_nil _))
    · have grown : ∀ d ∈ begun ++ [c], ¬ Operator.isSymbol d := by
        intro d hd
        rcases List.mem_append.mp hd with old | new
        · exact plain d old
        · rwa [List.mem_singleton.mp new]
      have := ih (begun ++ [c]) grown
      rwa [List.append_assoc, List.singleton_append] at this

/-- A run up to the end of the buffer. -/
theorem cut_run (plain : ∀ c ∈ text, ¬ Operator.isSymbol c) : cut [] text = ofRun text := by
  suffices ∀ begun, cut begun text = ofRun (begun ++ text) from this []
  induction text with
  | nil =>
    intro begun
    rw [cut, List.append_nil]
  | cons c rest ih =>
    intro begun
    have hrest : ∀ d ∈ rest, ¬ Operator.isSymbol d := by
      intro d hd
      exact plain d (List.mem_cons_of_mem _ hd)
    rw [cut, Operator.ofSymbol?_eq_none (plain c List.mem_cons_self)]
    show cut (begun ++ [c]) rest = _
    rw [ih hrest, List.append_assoc, List.singleton_append]

/-- **An operator cuts a buffer in two**, each of which is cut by itself. -/
theorem cut_append_operator (front : List Char) (op : Operator) (back : List Char) :
    cut [] (front ++ op.symbol :: back) = cut [] front ++ .operator op :: cut [] back := by
  induction front using runInduction with
  | run text plain => rw [cut_operator plain, cut_run plain, List.nil_append]
  | operator text inner rest plain ih =>
    rw [List.append_assoc, List.cons_append, cut_operator plain, ih, cut_operator plain,
      List.append_assoc, List.cons_append]

theorem ofRun_of_isRun (h : IsRun text) : ofRun text = [.run text] := if_neg h.1

/-! ## What is dropped -/

/-- **The pieces of a buffer**: each symbol, and what stands between two symbols as one piece. -/
def pieces (buffer : List Char) : List (List Char) :=
  buffer.splitBy fun a b => !Operator.isSymbol a && !Operator.isSymbol b

/-- **A buffer without its blank runs.** -/
def withoutBlankRuns (buffer : List Char) : List Char :=
  ((pieces buffer).filter (!Text.isBlankText ·)).flatten

theorem pieces_run (plain : ∀ c ∈ text, ¬ Operator.isSymbol c) (ne : text ≠ []) :
    pieces text = [text] := by
  apply List.splitBy_of_isChain ne
  apply List.Pairwise.isChain
  apply List.pairwise_of_forall_mem_list
  intro a ha b hb
  simp only [plain a ha, plain b hb]
  rfl

/-- A symbol is a piece of its own. -/
theorem pieces_operator (text : List Char) (op : Operator) (rest : List Char) :
    pieces (text ++ op.symbol :: rest) = pieces text ++ [op.symbol] :: pieces rest := by
  have front : pieces (text ++ op.symbol :: rest) = pieces text ++ pieces (op.symbol :: rest) :=
    List.splitBy_append_cons rest (by simp [Operator.isSymbol_symbol])
  have behind : pieces ([op.symbol] ++ rest) = pieces [op.symbol] ++ pieces rest :=
    List.splitBy_append (by simp [Operator.isSymbol_symbol])
  rw [front]
  exact congrArg (pieces text ++ ·) behind

theorem withoutBlankRuns_run (plain : ∀ c ∈ text, ¬ Operator.isSymbol c) :
    withoutBlankRuns text = render (ofRun text) := by
  by_cases blank : Text.isBlankText text
  · rw [ofRun, if_pos blank]
    cases text with
    | nil => rfl
    | cons c rest =>
      rw [withoutBlankRuns, pieces_run plain (List.cons_ne_nil c rest),
        List.filter_cons_of_neg (by simpa using blank)]
      rfl
  · have ne : text ≠ [] := by
      rintro rfl
      exact blank rfl
    rw [ofRun, if_neg blank, withoutBlankRuns, pieces_run plain ne,
      List.filter_cons_of_pos (by simpa using blank)]
    rfl

theorem withoutBlankRuns_operator (text : List Char) (op : Operator) (rest : List Char) :
    withoutBlankRuns (text ++ op.symbol :: rest) =
      withoutBlankRuns text ++ op.symbol :: withoutBlankRuns rest := by
  have visible : Text.isBlankText [op.symbol] = false := by cases op <;> decide
  rw [withoutBlankRuns, pieces_operator, List.filter_append,
    List.filter_cons_of_pos (by rw [visible]; rfl), List.flatten_append, List.flatten_cons]
  rfl

/-! ## Cutting, then writing -/

theorem render_append (a b : List Token) : render (a ++ b) = render a ++ render b :=
  List.flatMap_append

/-- **Written again, tokens are the buffer without its blank runs.** -/
theorem render_cut (buffer : List Char) : render (cut [] buffer) = withoutBlankRuns buffer := by
  induction buffer using runInduction with
  | run text plain => rw [cut_run plain, withoutBlankRuns_run plain]
  | operator text op rest plain ih =>
    rw [cut_operator plain, List.nil_append, render_append, withoutBlankRuns_operator,
      withoutBlankRuns_run plain, ← ih]
    rfl

/-- The operator of a token, if it is one. -/
def operator? : Token → Option Operator
  | run _ => none
  | operator op => some op

/-- A run has no operators. -/
theorem operators_ofRun (text : List Char) : (ofRun text).filterMap operator? = [] := by
  unfold ofRun
  split <;> rfl

theorem symbols_run (plain : ∀ c ∈ text, ¬ Operator.isSymbol c) :
    text.filterMap Operator.ofSymbol? = [] :=
  List.filterMap_eq_nil_iff.mpr fun c hc => Operator.ofSymbol?_eq_none (plain c hc)

/-- **Every symbol of a buffer is a token**, once and in order. -/
theorem operators_cut (buffer : List Char) :
    (cut [] buffer).filterMap operator? = buffer.filterMap Operator.ofSymbol? := by
  induction buffer using runInduction with
  | run text plain => rw [cut_run plain, operators_ofRun, symbols_run plain]
  | operator text op rest plain ih =>
    rw [cut_operator plain, List.filterMap_append, operators_ofRun, List.filterMap_append,
      symbols_run plain, List.filterMap_cons_some (Operator.ofSymbol?_eq_some_iff.mpr rfl), ← ih]
    rfl

/-- A run and an operator in front of well-formed tokens. -/
theorem wellFormed_operator {tokens : List Token} (plain : ∀ c ∈ text, ¬ Operator.isSymbol c)
    (op : Operator) (h : WellFormed tokens) :
    WellFormed (ofRun text ++ .operator op :: tokens) := by
  unfold ofRun
  split
  next => exact h
  next visible => exact ⟨⟨visible, plain⟩, h⟩

/-- **Cutting answers well-formed tokens.** -/
theorem wellFormed_cut (buffer : List Char) : WellFormed (cut [] buffer) := by
  induction buffer using runInduction with
  | run text plain =>
    rw [cut_run plain, ofRun]
    split
    next => trivial
    next visible => exact ⟨visible, plain⟩
  | operator text op rest plain ih =>
    rw [cut_operator plain]
    exact wellFormed_operator plain op ih

/-! ## Writing, then cutting -/

/-- **Well-formed tokens are cut as they were written.** -/
theorem cut_render {tokens : List Token} (h : WellFormed tokens) :
    cut [] (render tokens) = tokens := by
  induction tokens using WellFormed.induct with
  | case1 => rfl
  | case2 op rest ih =>
    have hcut := cut_operator (List.forall_mem_nil fun c => ¬ Operator.isSymbol c) [] op
      (render rest)
    rw [ih h] at hcut
    exact hcut
  | case3 text =>
    show cut [] (text ++ []) = _
    rw [List.append_nil, cut_run h.2, ofRun_of_isRun h]
  | case4 text op rest ih =>
    show cut [] (text ++ op.symbol :: render rest) = _
    rw [cut_operator h.1.2, ih h.2, List.nil_append, ofRun_of_isRun h.1]
    rfl
  | case5 => exact h.elim

/-- **Cutting and writing.** What a buffer is cut into is well formed. If the buffer has two
characters or more, the tokens written again are the buffer without its blank runs, and they hold
each of its symbols once and in order. And if well-formed tokens fill two characters or more when
they are written, the buffer is cut into them again. -/
theorem ofBuffer_inverts_render :
    (∀ buffer, WellFormed (ofBuffer buffer)) ∧
      (∀ buffer : List Char, 2 ≤ buffer.length →
        render (ofBuffer buffer) = withoutBlankRuns buffer ∧
          (ofBuffer buffer).filterMap operator? = buffer.filterMap Operator.ofSymbol?) ∧
      ∀ tokens, WellFormed tokens → 2 ≤ (render tokens).length →
        ofBuffer (render tokens) = tokens := by
  have long : ∀ buffer : List Char, 2 ≤ buffer.length → ofBuffer buffer = cut [] buffer := by
    intro buffer h
    exact if_neg (Nat.not_lt.mpr h)
  refine ⟨?_, ?_, ?_⟩
  · intro buffer
    unfold ofBuffer
    split
    next => trivial
    next => exact wellFormed_cut buffer
  · intro buffer h
    rw [long buffer h]
    exact ⟨render_cut buffer, operators_cut buffer⟩
  · intro tokens h two
    rw [long _ two]
    exact cut_render h

/-- A blank run is dropped wherever it stands, and blanks at the ends of other runs are kept. -/
example : render (ofBuffer "\t+ 2 - */".toList) = "+ 2 -*/".toList := by decide

end PocketCalc.Token
