import PocketCalc.Proofs.Token.Offset

/-!
# The run that is typed and the last token

The end of a buffer is looked for from two sides. Typing searches it backwards for the last operator
symbol and takes the bytes behind it, for that is the run which may hold one point (`currentRun`).
Cutting scans it forwards, and ends with its last token. The symbols are known to the one as a table
of characters (`Operator.table`), to the other as what the operators are written with
(`Operator.ofSymbol?`); and one goes on behind a symbol by a byte, the other by the symbol's width.

**The law** (`Token.currentRun_is_last`): both cut a buffer at the same place, whatever the widths of
its characters. The run that is typed is the last token; where it is blank, and dropped, the last
token is the last symbol; and a buffer with neither has no tokens.

**What it does not establish.** That the last token is the run that is typed where a buffer has fewer
than two characters: it has no tokens then, and may still be a run.
-/

namespace PocketCalc

namespace Text

/-! ## Searching from the end -/

/-- **The search from the end**, for a character that is asked for: where it begins, in bytes. What
has not been looked at yet ends at `offset`, and stands here last character first. -/
def searchBack (asked : Char → Bool) (offset : Nat) : List Char → Option Nat
  | [] => none
  | c :: front =>
    let start := offset - c.utf8Size
    if asked c then some start else searchBack asked start front

/-- The byte offset of the last character that is asked for. -/
def lastOffset? (asked : Char → Bool) (text : List Char) : Option Nat :=
  searchBack asked (byteLength text) text.reverse

theorem byteLength_reverse (text : List Char) : byteLength text.reverse = byteLength text := by
  rw [byteLength, List.map_reverse, List.sum_reverse, byteLength]

variable {asked : Char → Bool}

/-- Characters that are not asked for are passed over, each with its bytes. -/
theorem searchBack_append {passed : List Char} (h : ∀ c ∈ passed, ¬ asked c) (offset : Nat)
    (front : List Char) :
    searchBack asked (offset + byteLength passed) (passed ++ front) =
      searchBack asked offset front := by
  induction passed with
  | nil => rfl
  | cons c passed ih =>
    obtain ⟨hc, hpassed⟩ := List.forall_mem_cons.mp h
    have hstart : offset + byteLength (c :: passed) - c.utf8Size = offset + byteLength passed := by
      rw [byteLength_cons]
      omega
    rw [List.cons_append, searchBack, if_neg hc, hstart, ih hpassed]

theorem lastOffset?_eq_none {text : List Char} (h : ∀ c ∈ text, ¬ asked c) :
    lastOffset? asked text = none := by
  have hreverse : ∀ c ∈ text.reverse, ¬ asked c := fun c hc => h c (List.mem_reverse.mp hc)
  have hsearch := searchBack_append hreverse 0 []
  rw [List.append_nil, Nat.zero_add, byteLength_reverse] at hsearch
  exact hsearch

/-- The last character that is asked for begins behind what stands in front of it. -/
theorem lastOffset?_append (front : List Char) {c : Char} (hc : asked c) {back : List Char}
    (h : ∀ d ∈ back, ¬ asked d) :
    lastOffset? asked (front ++ c :: back) = some (byteLength front) := by
  have hreverse : ∀ d ∈ back.reverse, ¬ asked d := fun d hd => h d (List.mem_reverse.mp hd)
  have hsearch := searchBack_append hreverse (byteLength (front ++ [c])) (c :: front.reverse)
  rw [byteLength_reverse, ← byteLength_append, List.append_assoc, List.singleton_append] at hsearch
  have hwidth : byteLength (front ++ [c]) - c.utf8Size = byteLength front := by
    rw [byteLength_append, byteLength_cons]
    exact Nat.add_sub_cancel _ _
  rw [lastOffset?, List.reverse_append, List.reverse_cons, List.append_assoc,
    List.singleton_append, hsearch, searchBack, if_pos hc, hwidth]

end Text

open Text (byteLength slice?)

/-! ## The run that is typed, in place -/

/-- The operator symbols, written out. -/
def Operator.table : List Char := ['+', '-', '*', '/', '%']

/-- The table holds the symbols that the operators are written with, and no others. -/
theorem Operator.contains_table : table.contains = isSymbol := rfl

/-- **The run that is typed, cut in place**: the bytes from the first behind the last symbol to the
end of the buffer. -/
def currentRunInPlace (buffer : List Char) : Option (List Char) :=
  match Text.lastOffset? Operator.table.contains buffer with
  | none => some buffer
  | some offset => slice? buffer (offset + 1) (byteLength buffer)

namespace Token

/-! ## How a buffer ends -/

/-- **How a buffer ends**: with the operator of its last symbol and the run behind that, or, if it
has no symbol, as one run. -/
inductive Ends : List Char → Option Operator → List Char → Prop where
  | run {text : List Char} (plain : ∀ c ∈ text, ¬ Operator.isSymbol c) : Ends text none text
  | operator {text : List Char} (front : List Char) (op : Operator)
      (plain : ∀ c ∈ text, ¬ Operator.isSymbol c) : Ends (front ++ op.symbol :: text) (some op) text

/-- The operator of the last symbol. -/
def lastOperator? (buffer : List Char) : Option Operator :=
  (buffer.filterMap Operator.ofSymbol?).getLast?

variable {buffer text : List Char} {last? : Option Operator}

/-- What is put in front, with a symbol behind it, leaves the end as it is. -/
theorem Ends.after (h : Ends buffer last? text) (front : List Char) (op : Operator) :
    Ends (front ++ op.symbol :: buffer) (some (last?.getD op)) text := by
  cases h with
  | run plain => exact .operator front op plain
  | operator inner last plain =>
    rw [← List.cons_append, ← List.append_assoc]
    exact .operator (front ++ op.symbol :: inner) last plain

/-- Every buffer ends in one of the two ways. -/
theorem exists_ends (buffer : List Char) : ∃ last? text, Ends buffer last? text := by
  induction buffer using runInduction with
  | run text plain => exact ⟨none, text, .run plain⟩
  | operator front op rest _ ih =>
    obtain ⟨last?, text, h⟩ := ih
    exact ⟨some (last?.getD op), text, h.after front op⟩

namespace Ends

/-- The search from the end answers the run behind the last symbol. -/
theorem currentRun_eq (h : Ends buffer last? text) : currentRun buffer = text := by
  cases h with
  | run plain => exact currentRun_run plain
  | operator front op plain => exact currentRun_operator plain front op

theorem lastOperator?_eq (h : Ends buffer last? text) : lastOperator? buffer = last? := by
  cases h with
  | run plain => rw [lastOperator?, symbols_run plain, List.getLast?_nil]
  | operator front op plain =>
    rw [lastOperator?, List.filterMap_append,
      List.filterMap_cons_some (Operator.ofSymbol?_eq_some_iff.mpr rfl), symbols_run plain,
      List.getLast?_concat]

/-- **Behind a symbol by one byte**: no symbol is wider, so the slice begins where the run does. -/
theorem currentRunInPlace_eq (h : Ends buffer last? text) : currentRunInPlace buffer = some text := by
  cases h with
  | run plain =>
    rw [currentRunInPlace, Operator.contains_table, Text.lastOffset?_eq_none plain]
  | operator front op plain =>
    have hwidth : byteLength (front ++ [op.symbol]) = byteLength front + 1 := by
      rw [Text.byteLength_append]
      cases op <;> rfl
    have hslice := Text.slice?_append (front ++ [op.symbol]) text []
    rw [List.append_nil, List.append_assoc, List.singleton_append, hwidth] at hslice
    rw [currentRunInPlace, Operator.contains_table,
      Text.lastOffset?_append front op.isSymbol_symbol plain]
    exact hslice

/-- The last token of what is cut: the run at the end if it is kept, or else the last symbol. -/
theorem getLast?_cut (h : Ends buffer last? text) :
    (cut [] buffer).getLast? = (ofRun text).getLast?.or (last?.map .operator) := by
  cases h with
  | run plain => rw [cut_run plain, Option.map_none, Option.or_none]
  | operator front op plain =>
    rw [cut_append_operator, cut_run plain, List.append_cons, List.getLast?_append,
      List.getLast?_concat, Option.map_some]

theorem getLast?_visible (h : Ends buffer last? text) (visible : ¬ Text.isBlankText text) :
    (cut [] buffer).getLast? = some (.run text) := by
  rw [h.getLast?_cut, ofRun, if_neg visible]
  rfl

theorem getLast?_blank (h : Ends buffer last? text) (blank : Text.isBlankText text) :
    (cut [] buffer).getLast? = last?.map .operator := by
  rw [h.getLast?_cut, ofRun, if_pos blank]
  rfl

end Ends

/-- The run that is typed and the last operator are how a buffer ends. -/
theorem ends_currentRun (buffer : List Char) :
    Ends buffer (lastOperator? buffer) (currentRun buffer) := by
  obtain ⟨last?, text, h⟩ := exists_ends buffer
  rw [h.lastOperator?_eq, h.currentRun_eq]
  exact h

/-- **The run that is typed is the last token.** A buffer ends with its last operator symbol and the
run that is typed, or is that run if it has no symbol. If it has two characters or more, then the run
is its last token unless the run is blank; if the run is blank and there is a symbol, the last token
is the operator of the last symbol; if the run is blank and there is none, there are no tokens. And
both sides find this in place, by byte offsets, without being refused a slice. -/
theorem currentRun_is_last (buffer : List Char) (two : 2 ≤ buffer.length) :
    Ends buffer (lastOperator? buffer) (currentRun buffer) ∧
      (¬ Text.isBlankText (currentRun buffer) →
        (ofBuffer buffer).getLast? = some (.run (currentRun buffer))) ∧
      (∀ op, Text.isBlankText (currentRun buffer) → lastOperator? buffer = some op →
        (ofBuffer buffer).getLast? = some (.operator op)) ∧
      (Text.isBlankText (currentRun buffer) → lastOperator? buffer = none →
        ofBuffer buffer = []) ∧
      currentRunInPlace buffer = some (currentRun buffer) ∧
      inPlace buffer = some (ofBuffer buffer) := by
  have ends := ends_currentRun buffer
  rw [ofBuffer_of_le two]
  refine ⟨ends, ends.getLast?_visible, ?_, ?_, ends.currentRunInPlace_eq, inPlace_eq_cut buffer⟩
  · intro op blank hlast
    rw [ends.getLast?_blank blank, hlast]
    rfl
  · intro blank hlast
    have hnone := ends.getLast?_blank blank
    rw [hlast] at hnone
    exact List.getLast?_eq_none_iff.mp hnone

/-- Behind and between letters of two, three and four bytes: a run with a point, a run of one wide
blank behind two symbols, and wide blanks alone. -/
theorem currentRun_is_last_wide :
    let visible := "é+😀-€.5 ".toList
    let dropped := "😀*/\u3000".toList
    let blank := "\u2003\u00a0".toList
    (2 ≤ visible.length ∧ (ofBuffer visible).getLast? = some (.run "€.5 ".toList)) ∧
      (2 ≤ dropped.length ∧ (ofBuffer dropped).getLast? = some (.operator .divide)) ∧
      2 ≤ blank.length ∧ ofBuffer blank = [] := by
  intro visible dropped blank
  have hvisible : 2 ≤ visible.length := by decide
  have hdropped : 2 ≤ dropped.length := by decide
  have hblank : 2 ≤ blank.length := by decide
  refine ⟨⟨hvisible, ?_⟩, ⟨hdropped, ?_⟩, hblank, ?_⟩
  · have hrun : currentRun visible = "€.5 ".toList := by decide
    rw [(currentRun_is_last visible hvisible).2.1 (by decide), hrun]
  · exact (currentRun_is_last dropped hdropped).2.2.1 .divide (by decide) (by decide)
  · exact (currentRun_is_last blank hblank).2.2.2.1 (by decide) (by decide)

end Token

end PocketCalc
