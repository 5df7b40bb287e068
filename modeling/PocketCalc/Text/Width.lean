import PocketCalc.Text.Joining

/-!
# Width

How many cells of a screen a text takes: none for marks and fillers, two for the wide characters of
the east and for pictures, one for most others. A text is read from right to left, because the
width of a character may depend on what follows it: a selector makes a sign a picture or a picture a
sign, a skin tone or a joiner makes one picture of two, and a stacked letter stands under the one
before it.

**What it does not establish.** Whether a screen draws what is wide as wide.
-/

namespace PocketCalc.Text

/-! ## Tables -/

/-- Wide and full-width characters, the marks among them included. -/
def wideCharacters : List (Nat × Nat) :=
  [(0x1100, 0x115f), (0x231a, 0x231b), (0x2329, 0x232a), (0x23e9, 0x23ec), (0x23f0, 0x23f0),
    (0x23f3, 0x23f3), (0x25fd, 0x25fe), (0x2614, 0x2615), (0x2630, 0x2637), (0x2648, 0x2653),
    (0x267f, 0x267f), (0x268a, 0x268f), (0x2693, 0x2693), (0x26a1, 0x26a1), (0x26aa, 0x26ab),
    (0x26bd, 0x26be), (0x26c4, 0x26c5), (0x26ce, 0x26ce), (0x26d4, 0x26d4), (0x26ea, 0x26ea),
    (0x26f2, 0x26f3), (0x26f5, 0x26f5), (0x26fa, 0x26fa), (0x26fd, 0x26fd), (0x2705, 0x2705),
    (0x270a, 0x270b), (0x2728, 0x2728), (0x274c, 0x274c), (0x274e, 0x274e), (0x2753, 0x2755),
    (0x2757, 0x2757), (0x2795, 0x2797), (0x27b0, 0x27b0), (0x27bf, 0x27bf), (0x2b1b, 0x2b1c),
    (0x2b50, 0x2b50), (0x2b55, 0x2b55), (0x2e80, 0x2e99), (0x2e9b, 0x2ef3), (0x2f00, 0x2fd5),
    (0x2ff0, 0x303e), (0x3041, 0x3096), (0x3099, 0x30ff), (0x3105, 0x312f), (0x3131, 0x318e),
    (0x3190, 0x31e5), (0x31ef, 0x321e), (0x3220, 0x3247), (0x3250, 0xa48c), (0xa490, 0xa4c6),
    (0xa960, 0xa97c), (0xac00, 0xd7a3), (0xf900, 0xfaff), (0xfe10, 0xfe19), (0xfe30, 0xfe52),
    (0xfe54, 0xfe66), (0xfe68, 0xfe6b), (0xff01, 0xff60), (0xffe0, 0xffe6), (0x16fe0, 0x16fe4),
    (0x16ff0, 0x16ff6), (0x17000, 0x18cd5), (0x18cff, 0x18d1e), (0x18d80, 0x18df2),
    (0x1aff0, 0x1aff3), (0x1aff5, 0x1affb), (0x1affd, 0x1affe), (0x1b000, 0x1b122),
    (0x1b132, 0x1b132), (0x1b150, 0x1b152), (0x1b155, 0x1b155), (0x1b164, 0x1b167),
    (0x1b170, 0x1b2fb), (0x1d300, 0x1d356), (0x1d360, 0x1d376), (0x1f004, 0x1f004),
    (0x1f0cf, 0x1f0cf), (0x1f18e, 0x1f18e), (0x1f191, 0x1f19a), (0x1f200, 0x1f202),
    (0x1f210, 0x1f23b), (0x1f240, 0x1f248), (0x1f250, 0x1f251), (0x1f260, 0x1f265),
    (0x1f300, 0x1f320), (0x1f32d, 0x1f335), (0x1f337, 0x1f37c), (0x1f37e, 0x1f393),
    (0x1f3a0, 0x1f3ca), (0x1f3cf, 0x1f3d3), (0x1f3e0, 0x1f3f0), (0x1f3f4, 0x1f3f4),
    (0x1f3f8, 0x1f43e), (0x1f440, 0x1f440), (0x1f442, 0x1f4fc), (0x1f4ff, 0x1f53d),
    (0x1f54b, 0x1f54e), (0x1f550, 0x1f567), (0x1f57a, 0x1f57a), (0x1f595, 0x1f596),
    (0x1f5a4, 0x1f5a4), (0x1f5fb, 0x1f64f), (0x1f680, 0x1f6c5), (0x1f6cc, 0x1f6cc),
    (0x1f6d0, 0x1f6d2), (0x1f6d5, 0x1f6d8), (0x1f6dc, 0x1f6df), (0x1f6eb, 0x1f6ec),
    (0x1f6f4, 0x1f6fc), (0x1f7e0, 0x1f7eb), (0x1f7f0, 0x1f7f0), (0x1f90c, 0x1f93a),
    (0x1f93c, 0x1f945), (0x1f947, 0x1f9ff), (0x1fa70, 0x1fa7c), (0x1fa80, 0x1fa8a),
    (0x1fa8e, 0x1fac6), (0x1fac8, 0x1fac8), (0x1facd, 0x1fadc), (0x1fadf, 0x1faea),
    (0x1faef, 0x1faf8), (0x20000, 0x2fffd), (0x30000, 0x3fffd)]

/-- Characters without a shape of their own. -/
def ignorables : List (Nat × Nat) :=
  [(0xad, 0xad), (0x34f, 0x34f), (0x61c, 0x61c), (0x115f, 0x1160), (0x17b4, 0x17b5),
    (0x180b, 0x180f), (0x200b, 0x200f), (0x202a, 0x202e), (0x2060, 0x206f), (0x3164, 0x3164),
    (0xfe00, 0xfe0f), (0xfeff, 0xfeff), (0xffa0, 0xffa0), (0xfff0, 0xfff8), (0x1bca0, 0x1bca3),
    (0x1d173, 0x1d17a), (0xe0000, 0xe0fff)]

/-- Pictures that a skin tone colours. -/
def toned : List (Nat × Nat) :=
  [(0x261d, 0x261d), (0x26f9, 0x26f9), (0x270a, 0x270d), (0x1f385, 0x1f385), (0x1f3c2, 0x1f3c4),
    (0x1f3c7, 0x1f3c7), (0x1f3ca, 0x1f3cc), (0x1f442, 0x1f443), (0x1f446, 0x1f450),
    (0x1f466, 0x1f478), (0x1f47c, 0x1f47c), (0x1f481, 0x1f483), (0x1f485, 0x1f487),
    (0x1f48f, 0x1f48f), (0x1f491, 0x1f491), (0x1f4aa, 0x1f4aa), (0x1f574, 0x1f575),
    (0x1f57a, 0x1f57a), (0x1f590, 0x1f590), (0x1f595, 0x1f596), (0x1f645, 0x1f647),
    (0x1f64b, 0x1f64f), (0x1f6a3, 0x1f6a3), (0x1f6b4, 0x1f6b6), (0x1f6c0, 0x1f6c0),
    (0x1f6cc, 0x1f6cc), (0x1f90c, 0x1f90c), (0x1f90f, 0x1f90f), (0x1f918, 0x1f91f),
    (0x1f926, 0x1f926), (0x1f930, 0x1f939), (0x1f93c, 0x1f93e), (0x1f977, 0x1f977),
    (0x1f9b5, 0x1f9b6), (0x1f9b8, 0x1f9b9), (0x1f9bb, 0x1f9bb), (0x1f9cd, 0x1f9cf),
    (0x1f9d1, 0x1f9dd), (0x1fac3, 0x1fac5), (0x1faf0, 0x1faf8)]

/-- Pictures that are also signs. -/
def signs : List (Nat × Nat) :=
  [(0x231a, 0x231b), (0x23e9, 0x23ea), (0x23f0, 0x23f0), (0x23f3, 0x23f3), (0x25fd, 0x25fe),
    (0x2614, 0x2615), (0x2648, 0x2653), (0x267f, 0x267f), (0x2693, 0x2693), (0x26a1, 0x26a1),
    (0x26aa, 0x26ab), (0x26bd, 0x26be), (0x26c4, 0x26c5), (0x26d4, 0x26d4), (0x26ea, 0x26ea),
    (0x26f2, 0x26f3), (0x26f5, 0x26f5), (0x26fa, 0x26fa), (0x26fd, 0x26fd), (0x2753, 0x2753),
    (0x2757, 0x2757), (0x2b1b, 0x2b1c), (0x2b50, 0x2b50), (0x2b55, 0x2b55), (0x1f004, 0x1f004),
    (0x1f30d, 0x1f30f), (0x1f315, 0x1f315), (0x1f31c, 0x1f31c), (0x1f378, 0x1f378),
    (0x1f393, 0x1f393), (0x1f3a7, 0x1f3a7), (0x1f3ac, 0x1f3ae), (0x1f3c2, 0x1f3c2),
    (0x1f3c4, 0x1f3c4), (0x1f3c6, 0x1f3c6), (0x1f3ca, 0x1f3ca), (0x1f3e0, 0x1f3e0),
    (0x1f3ed, 0x1f3ed), (0x1f408, 0x1f408), (0x1f415, 0x1f415), (0x1f41f, 0x1f41f),
    (0x1f426, 0x1f426), (0x1f442, 0x1f442), (0x1f446, 0x1f449), (0x1f44d, 0x1f44e),
    (0x1f453, 0x1f453), (0x1f46a, 0x1f46a), (0x1f47d, 0x1f47d), (0x1f4a3, 0x1f4a3),
    (0x1f4b0, 0x1f4b0), (0x1f4b3, 0x1f4b3), (0x1f4bb, 0x1f4bb), (0x1f4bf, 0x1f4bf),
    (0x1f4cb, 0x1f4cb), (0x1f4da, 0x1f4da), (0x1f4df, 0x1f4df), (0x1f4e4, 0x1f4e6),
    (0x1f4ea, 0x1f4ed), (0x1f4f7, 0x1f4f7), (0x1f4f9, 0x1f4fb), (0x1f508, 0x1f508),
    (0x1f50d, 0x1f50d), (0x1f512, 0x1f513), (0x1f550, 0x1f567), (0x1f610, 0x1f610),
    (0x1f687, 0x1f687), (0x1f68d, 0x1f68d), (0x1f691, 0x1f691), (0x1f694, 0x1f694),
    (0x1f698, 0x1f698), (0x1f6ad, 0x1f6ad), (0x1f6b2, 0x1f6b2), (0x1f6b9, 0x1f6ba),
    (0x1f6bc, 0x1f6bc)]

/-- Letters that a stacking mark puts under the letter before it. -/
def stacked : List (Nat × Nat) :=
  [(0x1780, 0x1782), (0x1784, 0x1787), (0x1789, 0x178c), (0x178e, 0x1793), (0x1795, 0x1798),
    (0x179b, 0x179d), (0x17a0, 0x17a0), (0x17a2, 0x17a2), (0x17a7, 0x17a7), (0x17ab, 0x17ac),
    (0x17af, 0x17af)]

/-! ## Characters -/

/-- A character that takes no cell: a mark or filler, or the inner letter of a syllable. -/
def isZeroWidth (c : Char) : Bool :=
  let n := c.toNat
  if n = 0x115f || n = 0x2d7f || n = 0xff9e || n = 0xff9f || isSkinTone c then false
  else
    match Joining.of c with
    | .extend => true
    | .nonJoiner => true
    | .joiner => true
    | .linker => true
    | .vowel => n < 0x10000
    | .trailing => true
    | .preceding => !inRanges [(0x600, 0x604), (0x6dd, 0x6dd), (0x110bd, 0x110cd)] n
    | _ => inRanges ignorables n || n = 0xa8fa

/-- A character that takes two cells. -/
def isWide (c : Char) : Bool := inRanges wideCharacters c.toNat || c.toNat = 0x17a4

/-- The width of a character by itself. -/
def charWidth (c : Char) : Nat :=
  if c.toNat ≤ 0xa0 then 1
  else if isZeroWidth c then 0
  else if isWide c then 2
  else if c.toNat = 0x17d8 then 3
  else 1

/-- A sign that a selector makes a picture. -/
def hasPicture (c : Char) : Bool := isPictograph c || c.isDigit || c = '#' || c = '*'

/-- A picture without any selector. -/
def isPicture (c : Char) : Bool :=
  isPictograph c && isWide c &&
    !inRanges [(0x3030, 0x3030), (0x303d, 0x303d), (0x3297, 0x3297), (0x3299, 0x3299),
      (0x1f202, 0x1f202), (0x1f237, 0x1f237)] c.toNat

/-! ## Texts -/

/-- **What follows** a character, as far as its width depends on it. -/
inductive Following where
  | plain
  /-- The selector that makes a picture; it may be `joined` to another one. -/
  | pictureSelector (joined : Bool)
  /-- The selector that makes a sign. -/
  | signSelector
  | skinTone
  | picture
  /-- A joiner, and a picture after it. -/
  | joiner
  /-- A letter that can be stacked. -/
  | stackedLetter
  deriving DecidableEq, Repr, Inhabited

namespace Following

/-- What a character is to the one before it, where nothing after it matters. -/
def of (c : Char) : Following :=
  if c.toNat = 0xfe0f then pictureSelector false
  else if c.toNat = 0xfe0e then signSelector
  else if isSkinTone c then skinTone
  else if isPicture c then picture
  else if inRanges stacked c.toNat then stackedLetter
  else plain

end Following

/-- The width of a character before a text of the width `total`, and what the two together are to
the character before them. -/
def widthBefore (c : Char) (total : Nat) (following : Following) : Nat × Following :=
  let alone := (total + charWidth c, Following.of c)
  if c.toNat = 0xfe0f then (total, .pictureSelector (following = .joiner))
  else if c.toNat = 0xfe0e then (total, .signSelector)
  else
    match following with
    | .pictureSelector joined =>
      if hasPicture c then (if joined then total else total + 2, .picture)
      else if joined && isSkinTone c then (total, .skinTone)
      else alone
    | .signSelector => if inRanges signs c.toNat then (total + 1, .plain) else alone
    | .skinTone =>
      if c.toNat = 0x200d then (total, .joiner)
      else if inRanges toned c.toNat then (total, .picture)
      else alone
    | .picture => if c.toNat = 0x200d then (total, .joiner) else alone
    | .joiner =>
      if isSkinTone c then (total, .skinTone)
      else if isPicture c then (total, .picture)
      else alone
    | .stackedLetter => if c.toNat = 0x17d2 then (total - 1, .plain) else alone
    | .plain => alone

/-- **The width of a text.** -/
def width (text : List Char) : Nat :=
  (text.foldr (fun c (after : Nat × Following) => widthBefore c after.1 after.2) (0, .plain)).1

end PocketCalc.Text
