import PocketCalc.Proofs.Token.Offset

/-!
# Splitting at a seam

The split of a buffer sorts its tokens into three lists. A token goes into one of them and into no
other, and nothing but the token itself decides which (`Token.sorted_once`). So the split of joined
token lists is the join of the splits; and cutting joins at every operator symbol, for no run goes
on across it (`Token.cut_append_operator`).

**The law** (`Split.splits_at_seam`): the split of two texts with an operator symbol between them is
the split of the first, the operator, and the split of the second.

**What it does not establish.** The same of halves with fewer than two characters, which have no
tokens by themselves (`Split.ofTokens_cut_seam` has the law for what they are cut into).
-/

namespace PocketCalc

/-! ## Sorting -/

/-- The text of a token, if it is a run that cannot be read: as it stands, blanks and all. -/
def Token.unread? : Token → Option (List Char)
  | .run text => if (Binary32.read? (Text.trim text)).isNone then some text else none
  | .operator _ => none

/-- **A token is a number, an operator or a run that cannot be read**, and only one of them. -/
theorem Token.sorted_once (token : Token) :
    [token.operand?.isSome, token.operator?.isSome, token.unread?.isSome].count true = 1 := by
  cases token with
  | operator op => rfl
  | run text =>
    rw [operand?, operator?, unread?]
    cases Binary32.read? (Text.trim text) <;> rfl

namespace Split

theorem ofToken_eq (token : Token) :
    ofToken token = ⟨token.operand?.toList, token.operator?.toList, token.unread?.toList⟩ := by
  cases token with
  | operator op => rfl
  | run text =>
    rw [ofToken, Token.operand?, Token.operator?, Token.unread?]
    cases Binary32.read? (Text.trim text) <;> rfl

/-- **The lists of a split** are the numbers, the operators and the unread texts among the tokens,
each in their order. -/
theorem ofTokens_eq (tokens : List Token) :
    ofTokens tokens = ⟨tokens.filterMap Token.operand?, tokens.filterMap Token.operator?,
      tokens.filterMap Token.unread?⟩ := by
  induction tokens with
  | nil => rfl
  | cons token rest ih =>
    show ofToken token ++ ofTokens rest = _
    rw [ofToken_eq, ih, append_def]
    simp only [List.filterMap_eq_flatMap_toList, List.flatMap_cons]

theorem operands_ofTokens (tokens : List Token) :
    (ofTokens tokens).operands = tokens.filterMap Token.operand? :=
  congrArg operands (ofTokens_eq tokens)

theorem operators_ofTokens (tokens : List Token) :
    (ofTokens tokens).operators = tokens.filterMap Token.operator? :=
  congrArg operators (ofTokens_eq tokens)

/-! ## Seams -/

/-- Neither half matters to how the other is cut and sorted. -/
theorem ofTokens_cut_seam (front : List Char) (op : Operator) (back : List Char) :
    ofTokens (Token.cut [] (front ++ op.symbol :: back)) =
      ofTokens (Token.cut [] front) ++ ⟨[], [op], []⟩ ++ ofTokens (Token.cut [] back) := by
  rw [Token.cut_append_operator, ofTokens_append, append_assoc]
  rfl

/-- **Splitting is compositional at operator symbols.** Two texts of two characters or more with an
operator symbol between them are split, list by list, into the split of the first, the operator, and
the split of the second. The lists of a split are the numbers, the operators and the unread texts
among the tokens, in the order of the tokens; each token is one of these and only one, and an unread
text is kept as it stands. And the tokens are those that the buffer holds when it is cut in place, by
byte offsets. -/
theorem splits_at_seam :
    (∀ (front back : List Char) (op : Operator), 2 ≤ front.length → 2 ≤ back.length →
      ofBuffer (front ++ op.symbol :: back) =
        ofBuffer front ++ ⟨[], [op], []⟩ ++ ofBuffer back) ∧
      (∀ tokens : List Token,
        ofTokens tokens = ⟨tokens.filterMap Token.operand?, tokens.filterMap Token.operator?,
          tokens.filterMap Token.unread?⟩) ∧
      (∀ token : Token,
        [token.operand?.isSome, token.operator?.isSome, token.unread?.isSome].count true = 1) ∧
      ∀ buffer : List Char, 2 ≤ buffer.length →
        Token.inPlace buffer = some (Token.ofBuffer buffer) := by
  refine ⟨?_, ofTokens_eq, Token.sorted_once, ?_⟩
  · intro front back op hfront hback
    have hjoined : 2 ≤ (front ++ op.symbol :: back).length := by
      rw [List.length_append]
      exact Nat.le_add_right_of_le hfront
    rw [ofBuffer_of_le hjoined, ofBuffer_of_le hfront, ofBuffer_of_le hback, ofTokens_cut_seam]
  · intro buffer hbuffer
    rw [Token.inPlace_eq_cut, Token.ofBuffer, if_neg (Nat.not_lt.mpr hbuffer)]

/-- Two operators side by side at the seam, a blank before them, and a letter of two bytes behind:
the blank is trimmed for reading, and kept in what is no number. -/
theorem splits_at_seam_wide :
    let front := "é /5 ".toList
    let back := "-é".toList
    2 ≤ front.length ∧ 2 ≤ back.length ∧
      ofBuffer (front ++ Operator.subtract.symbol :: back) =
        ⟨[.finite false ⟨129 * 2 ^ 23 + 2 ^ 21, by decide⟩], [.divide, .subtract, .subtract],
          [['é', ' '], ['é']]⟩ := by
  intro front back
  have hfront : 2 ≤ front.length := by decide
  have hback : 2 ≤ back.length := by decide
  refine ⟨hfront, hback, ?_⟩
  rw [splits_at_seam.1 front back .subtract hfront hback]
  decide

end Split

end PocketCalc
