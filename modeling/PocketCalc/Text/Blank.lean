/-!
# Blank characters

The characters of the Unicode property `White_Space`, and the trimming of texts by them.

**The law.** A text is blank exactly when trimming leaves nothing of it (`isBlankText_iff`).
-/

namespace PocketCalc.Text

/-- **Blank characters**, the 25 of the property `White_Space`. -/
def isBlank (c : Char) : Bool :=
  let n := c.toNat
  (9 ≤ n && n ≤ 13) || n = 0x20 || n = 0x85 || n = 0xa0 || n = 0x1680 || (0x2000 ≤ n && n ≤ 0x200a)
    || n = 0x2028 || n = 0x2029 || n = 0x202f || n = 0x205f || n = 0x3000

/-- A text without its blank characters in front. -/
def trimLeft (text : List Char) : List Char := text.dropWhile isBlank

/-- A text without its blank characters in front and behind. -/
def trim (text : List Char) : List Char := (trimLeft (trimLeft text).reverse).reverse

/-- Nothing but blank characters, or nothing at all. -/
def isBlankText (text : List Char) : Bool := text.all isBlank

/-- Trimming in front leaves nothing exactly when there is nothing but blanks. -/
theorem trimLeft_eq_nil_iff {text : List Char} : trimLeft text = [] ↔ ∀ c ∈ text, isBlank c := by
  induction text with
  | nil => exact ⟨fun _ c hc => absurd hc List.not_mem_nil, fun _ => rfl⟩
  | cons c rest ih =>
    rw [trimLeft, List.dropWhile_cons, List.forall_mem_cons]
    split
    next blank => exact ih.trans ⟨fun h => ⟨blank, h⟩, fun h => h.2⟩
    next visible => exact ⟨fun h => absurd h (List.cons_ne_nil c rest), fun h => absurd h.1 visible⟩

/-- A text is blank exactly when trimming leaves nothing. -/
theorem isBlankText_iff {text : List Char} : isBlankText text ↔ trim text = [] := by
  rw [isBlankText, List.all_eq_true, trim, List.reverse_eq_nil_iff, trimLeft_eq_nil_iff]
  constructor
  · intro all c hc
    exact all c ((List.dropWhile_sublist _).subset (List.mem_reverse.mp hc))
  · intro all c hc
    rw [← List.takeWhile_append_dropWhile (p := isBlank) (l := text)] at hc
    rcases List.mem_append.mp hc with front | back
    · exact List.all_eq_true.mp (List.all_takeWhile (p := isBlank)) c front
    · exact all c (List.mem_reverse.mpr back)

end PocketCalc.Text
