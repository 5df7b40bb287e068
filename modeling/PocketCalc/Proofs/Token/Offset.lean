import PocketCalc.Proofs.Token

/-!
# Cutting in place

A buffer can be cut where it stands: one pass goes over its characters with their byte offsets, keeps
the offset where the run that has begun starts, and slices the run out of the whole buffer when a
symbol ends it. Characters are one to four bytes wide, and a slice that begins or ends within one,
or past the end, is refused (`Text.slice?`).

**The law** (`Token.inPlace_eq_cut`): no slice is refused, and the pass finds the tokens that cutting
finds, whatever the widths of the characters.
-/

namespace PocketCalc

namespace Text

/-! ## Slices -/

/-- The bytes of a text. -/
def byteLength (text : List Char) : Nat := (text.map Char.utf8Size).sum

/-- **A text in two**, at a byte offset between two of its characters. -/
def splitAt? : List Char → Nat → Option (List Char × List Char)
  | text, 0 => some ([], text)
  | [], _ + 1 => none
  | c :: rest, offset + 1 =>
    if c.utf8Size ≤ offset + 1 then
      (splitAt? rest (offset + 1 - c.utf8Size)).map fun (front, back) => (c :: front, back)
    else none

/-- **What stands between two byte offsets** of a text. -/
def slice? (text : List Char) (start stop : Nat) : Option (List Char) := do
  let (front, _) ← splitAt? text stop
  let (_, inside) ← splitAt? front start
  return inside

theorem byteLength_cons (c : Char) (text : List Char) :
    byteLength (c :: text) = c.utf8Size + byteLength text := by
  rw [byteLength, List.map_cons, List.sum_cons, byteLength]

theorem byteLength_append (a b : List Char) : byteLength (a ++ b) = byteLength a + byteLength b := by
  rw [byteLength, List.map_append, List.sum_append, byteLength, byteLength]

/-- Behind some of its characters a text can be cut. -/
theorem splitAt?_append (front back : List Char) :
    splitAt? (front ++ back) (byteLength front) = some (front, back) := by
  induction front with
  | nil => cases back <;> rfl
  | cons c front ih =>
    -- a character has a byte at least, so the offset is no zero
    obtain ⟨n, hn⟩ : ∃ n, byteLength (c :: front) = n + 1 := by
      have hpos := c.utf8Size_pos
      rw [byteLength_cons]
      exact ⟨c.utf8Size + byteLength front - 1, by omega⟩
    have hrest : n + 1 - c.utf8Size = byteLength front := by
      rw [← hn, byteLength_cons, Nat.add_sub_cancel_left]
    have hle : c.utf8Size ≤ n + 1 := by
      rw [← hn, byteLength_cons]
      exact Nat.le_add_right _ _
    rw [hn, List.cons_append, splitAt?, if_pos hle, hrest, ih]
    rfl

theorem slice?_append (front inside back : List Char) :
    slice? (front ++ inside ++ back) (byteLength front) (byteLength (front ++ inside)) =
      some inside := by
  rw [slice?, splitAt?_append]
  show (do let (_, part) ← splitAt? (front ++ inside) (byteLength front); return part) = _
  rw [splitAt?_append]
  rfl

end Text

namespace Token

open Text (byteLength slice?)

/-! ## The pass -/

/-- **The pass over the rest of a buffer**: the tokens found so far, where the run that has begun
starts, and the offset that the pass has come to. -/
def pass (buffer : List Char) (found : List Token) (start offset : Nat) :
    List Char → Option (List Token)
  | [] => do
    let run ← slice? buffer start (byteLength buffer)
    return found ++ ofRun run
  | c :: rest =>
    match Operator.ofSymbol? c with
    | none => pass buffer found start (offset + c.utf8Size) rest
    | some op => do
      let run ← slice? buffer start offset
      let next := offset + c.utf8Size
      pass buffer (found ++ ofRun run ++ [.operator op]) next next rest

/-- **The tokens of a buffer, cut in place.** -/
def inPlace (buffer : List Char) : Option (List Token) := pass buffer [] 0 0 buffer

/-- The pass has come behind a run that has begun: it goes on as cutting does. -/
theorem pass_eq_cut (before begun rest : List Char) (found : List Token) :
    pass (before ++ begun ++ rest) found (byteLength before) (byteLength (before ++ begun)) rest =
      some (found ++ cut begun rest) := by
  induction rest generalizing before begun found with
  | nil =>
    rw [List.append_nil, pass]
    have hrun := Text.slice?_append before begun []
    rw [List.append_nil] at hrun
    rw [hrun]
    rfl
  | cons c rest ih =>
    rw [pass, cut]
    cases hc : Operator.ofSymbol? c with
    | none =>
      -- the run grows by the character
      have hgrown := ih before (begun ++ [c]) found
      rw [← List.append_assoc, List.append_assoc (before ++ begun), List.singleton_append,
        Text.byteLength_append (before ++ begun) [c], Text.byteLength_cons] at hgrown
      exact hgrown
    | some op =>
      -- the run ends, and an empty one begins behind the symbol
      have hnext := ih (before ++ begun ++ [c]) [] (found ++ ofRun begun ++ [.operator op])
      rw [List.append_nil, List.append_assoc (before ++ begun), List.singleton_append,
        Text.byteLength_append (before ++ begun) [c], Text.byteLength_cons] at hnext
      rw [Text.slice?_append]
      show pass _ (found ++ ofRun begun ++ [.operator op]) _ _ rest = _
      refine hnext.trans ?_
      rw [List.append_assoc, List.append_assoc, List.singleton_append]

/-- **Cutting in place finds the same tokens**, and is never refused a slice. -/
theorem inPlace_eq_cut (buffer : List Char) : inPlace buffer = some (cut [] buffer) :=
  pass_eq_cut [] [] buffer []

/-- A character of two bytes, one of four and one of three. -/
example : inPlace "é+😀5%€".toList =
    some [.run ['é'], .operator .add, .run ['😀', '5'], .operator .percent, .run ['€']] := by
  decide

end Token

end PocketCalc
