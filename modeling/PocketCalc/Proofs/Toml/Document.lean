import PocketCalc.Proofs.Decimal.Numeral
import PocketCalc.Proofs.Toml.Quoted
import PocketCalc.Toml.Document

/-!
# Written documents are read back

A document that is written line by line is read line by line. A value is **written** (`Written`) by
a text when the reader of values takes exactly that text, up to the end of its line; strings, truth
values and numbers are written so. A key without quotes and such a value make a line
(`readStatement_assign`), and so does a header (`readStatement_header`).

**The law** (`Lines.readStatements`): a document of lines, each read as a statement or as none, is
read as all of its statements.

**What it does not establish.** What the statements build.
-/

namespace PocketCalc.Toml

variable {c : Char} {word text key tail rest : List Char}

/-! ## Words -/

namespace Scalar

theorem isWordChar_of_isDigit (digit : c.isDigit) : isWordChar c := by
  simp only [isWordChar, Bool.and_eq_true, decide_eq_true_eq]
  and_intros <;> exact ne_of_test digit rfl

/-- A word up to the end of its line has the value that it has by itself. -/
theorem read_word (chars : ∀ c ∈ word, isWordChar c) (rest : List Char) :
    read (word ++ '\n' :: rest) = (read? word).map fun v => (v, '\n' :: rest) := by
  have htake : (word ++ '\n' :: rest).takeWhile isWordChar = word := by
    rw [List.takeWhile_append_of_pos chars]
    exact List.append_nil word
  have hdrop : (word ++ '\n' :: rest).dropWhile isWordChar = '\n' :: rest := by
    rw [List.dropWhile_append_of_pos chars]
    rfl
  rw [read, htake, hdrop]
  rfl

/-- Digits are no name, and have no mark of a base. -/
theorem read?_digits (digits : ∀ c ∈ word, c.isDigit) : read? word = number? word := by
  have hname : ∀ name : List Char, (∃ d ∈ name, d.isDigit = false) → word ≠ name := by
    rintro name ⟨d, hd, other⟩ rfl
    exact ne_of_test (digits d hd) other rfl
  have hsign := Numeral.splitSign_of_plain (Numeral.isPlain_of_digits digits)
  have hnamed : named? word = none := by
    simp only [named?, hsign]
    rw [if_neg (hname _ ⟨'i', by decide, rfl⟩), if_neg (hname _ ⟨'n', by decide, rfl⟩)]
  have htrue : word ≠ "true".toList := hname _ ⟨'t', by decide, rfl⟩
  have hfalse : word ≠ "false".toList := hname _ ⟨'f', by decide, rfl⟩
  rw [read?.eq_def, if_neg htrue, if_neg hfalse]
  simp only [hnamed]
  split
  next => exact absurd (digits 'x' (by simp)) (by decide)
  next => exact absurd (digits 'o' (by simp)) (by decide)
  next => exact absurd (digits 'b' (by simp)) (by decide)
  next => rfl

/-- Digits without a zero in front that does not stand alone are a whole number. -/
theorem number?_digits (digits : ∀ c ∈ word, c.isDigit)
    (lead : word = ['0'] ∨ ∃ c ∈ word.head?, c ≠ '0') :
    number? word = some (integer word (integer? 10 false word)) := by
  have hsign := Numeral.splitSign_of_plain (Numeral.isPlain_of_digits digits)
  have htake : word.takeWhile Char.isDigit = word := List.takeWhile_eq_self_iff.mpr digits
  have hdrop : word.dropWhile Char.isDigit = [] := List.dropWhile_eq_nil_iff.mpr digits
  have hungroup : ungroup word = word := by
    refine List.filter_eq_self.mpr fun c hc => ?_
    exact decide_eq_true (ne_of_test (digits c hc) rfl)
  have hlead : (decide (word = ['0']) || word.head?.any (· ≠ '0')) = true := by
    simpa [Option.any_eq_true] using lead
  simp only [number?, hsign, htake, hdrop, hungroup]
  rw [if_pos hlead]

theorem isDigit_of_mem_toDigits (n : Nat) : ∀ c ∈ Nat.toDigits 10 n, c.isDigit := fun _ hc =>
  Nat.isDigit_of_mem_toDigits (by decide) (by decide) hc

/-- A number has no zero in front, unless it is zero. -/
theorem toDigits_zero_cons {n : Nat} (h : Nat.toDigits 10 n = '0' :: rest) : rest = [] := by
  by_contra more
  -- without the zero the digits have the same value, which is then too small for their number
  have hdigits : ∀ c ∈ rest, c.isDigit := fun c hc =>
    isDigit_of_mem_toDigits n c (h ▸ List.mem_cons_of_mem _ hc)
  have hvalue : n = Nat.ofDigitChars 10 rest 0 := by
    rw [← Nat.ofDigitChars_ten_toDigits (n := n), h, Nat.ofDigitChars_cons]
    rfl
  have hlt : n < 10 ^ rest.length := hvalue ▸ ofDigitChars_lt hdigits
  have hlength := (Nat.length_toDigits_le_iff (b := 10) (by decide)
    (List.length_pos_iff.mpr more)).mpr hlt
  rw [h, List.length_cons] at hlength
  omega

/-- **A number is written in digits.** -/
theorem read?_toDigits {n : Nat} (fits : n < 2 ^ 128) :
    read? (Nat.toDigits 10 n) = some (.integer n) := by
  have digits := isDigit_of_mem_toDigits n
  have lead : Nat.toDigits 10 n = ['0'] ∨ ∃ c ∈ (Nat.toDigits 10 n).head?, c ≠ '0' := by
    obtain ⟨c, rest, h⟩ := List.exists_cons_of_ne_nil (Nat.toDigits_ne_nil (b := 10) (n := n))
    by_cases zero : c = '0'
    · subst zero
      exact .inl (by rw [h, toDigits_zero_cons h])
    · exact .inr ⟨c, by rw [h]; rfl, zero⟩
  rw [read?_digits digits, number?_digits digits lead, integer?_toDigits fits]
  rfl

end Scalar

/-! ## Values -/

theorem isBare_of_isDigit (digit : c.isDigit) : isBare c := by
  simp [isBare, Char.isAlphanum, digit]

theorem isSpace_of_isBare (bare : isBare c) : isSpace c = false := by
  have hspace : c ≠ ' ' := ne_of_test bare rfl
  have htab : c ≠ '\t' := ne_of_test bare rfl
  simp [isSpace, hspace, htab]

/-- **A value is written** by a text: the text does not begin with a space, and is read as the value
up to the end of the line. -/
structure Written (text : List Char) (v : Value) : Prop where
  begins : ∃ first more, text = first :: more ∧ isSpace first = false
  reads : ∀ depth rest, readValue depth (text ++ '\n' :: rest) = some (v, '\n' :: rest)

theorem readValue_quote {q : Char} (quote : q = '"' ∨ q = '\'') (depth : Nat) (tail : List Char) :
    readValue depth (q :: tail) = (readString (q :: tail)).map fun r => (.string r.1, r.2) := by
  obtain rfl | rfl := quote
  · cases depth <;> rfl
  · cases depth <;> rfl

theorem readValue_bare (bare : isBare c) (depth : Nat) (tail : List Char) :
    readValue depth (c :: tail) = Scalar.read (c :: tail) := by
  have hquote : c ≠ '"' := ne_of_test bare rfl
  have hapostrophe : c ≠ '\'' := ne_of_test bare rfl
  have hbracket : c ≠ '[' := ne_of_test bare rfl
  have hbrace : c ≠ '\x7b' := ne_of_test bare rfl
  rw [readValue.eq_def]
  cases depth with
  | zero =>
    simp only
    split
    next h => exact absurd (List.cons.inj h).1 hquote
    next h => exact absurd (List.cons.inj h).1 hapostrophe
    next => rfl
  | succ depth =>
    simp only
    split
    next h => exact absurd (List.cons.inj h).1 hquote
    next h => exact absurd (List.cons.inj h).1 hapostrophe
    next h => exact absurd (List.cons.inj h).1 hbracket
    next h => exact absurd (List.cons.inj h).1 hbrace
    next => rfl

theorem writeString_begins (text : List Char) :
    ∃ q more, writeString text = q :: more ∧ (q = '"' ∨ q = '\'') := by
  rw [writeString]
  cases Form.of text with
  | basic => exact ⟨'"', _, rfl, .inl rfl⟩
  | literal => exact ⟨'\'', _, rfl, .inr rfl⟩
  | basicLines => exact ⟨'"', _, rfl, .inl rfl⟩
  | literalLines => exact ⟨'\'', _, rfl, .inr rfl⟩

theorem written_string (text : List Char) : Written (writeString text) (.string text) := by
  obtain ⟨q, more, h, quote⟩ := writeString_begins text
  constructor
  · refine ⟨q, more, h, ?_⟩
    obtain rfl | rfl := quote <;> decide
  · intro depth rest
    have hread : readString (writeString text ++ '\n' :: rest) = some (text, '\n' :: rest) :=
      readString_writeString text (by simp) (by simp)
    rw [h, List.cons_append] at hread ⊢
    rw [readValue_quote quote, hread]
    rfl

/-- A word is written by itself. -/
theorem written_word {v : Value} (bare : isBare c) (chars : (c :: word).all Scalar.isWordChar)
    (value : Scalar.read? (c :: word) = some v) : Written (c :: word) v := by
  refine ⟨⟨c, word, rfl, isSpace_of_isBare bare⟩, fun depth rest => ?_⟩
  rw [List.cons_append, readValue_bare bare, ← List.cons_append,
    Scalar.read_word (List.all_eq_true.mp chars), value]
  rfl

theorem written_boolean (b : Bool) : Written (if b then "true" else "false").toList (.boolean b) := by
  cases b with
  | true =>
    show Written ['t', 'r', 'u', 'e'] _
    exact written_word rfl rfl rfl
  | false =>
    show Written ['f', 'a', 'l', 's', 'e'] _
    exact written_word rfl rfl rfl

theorem written_number {n : Nat} (fits : n < 2 ^ 128) :
    Written (Nat.toDigits 10 n) (.integer n) := by
  have digits := Scalar.isDigit_of_mem_toDigits n
  have value := Scalar.read?_toDigits fits
  obtain ⟨c, word, h⟩ := List.exists_cons_of_ne_nil (Nat.toDigits_ne_nil (b := 10) (n := n))
  rw [h] at digits value ⊢
  have chars : (c :: word).all Scalar.isWordChar :=
    List.all_eq_true.mpr fun d hd => Scalar.isWordChar_of_isDigit (digits d hd)
  exact written_word (isBare_of_isDigit (digits c List.mem_cons_self)) chars value

/-! ## Lines -/

theorem skipSpaces_cons (space : isSpace c = false) : skipSpaces (c :: tail) = c :: tail :=
  List.dropWhile_cons_of_neg (by rw [space]; decide)

theorem lineEnd_bare (bare : isBare c) : lineEnd (c :: tail) = none := by
  have hcomment : c ≠ '#' := ne_of_test bare rfl
  have hnewline : c ≠ '\n' := ne_of_test bare rfl
  have hreturn : c ≠ '\r' := ne_of_test bare rfl
  have hskip : skipComment (c :: tail) = c :: tail := by
    rw [skipComment]
    simpa using hcomment
  rw [lineEnd, skipSpaces_cons (isSpace_of_isBare bare), hskip]
  split
  next h => cases h
  next h => exact absurd (List.cons.inj h).1 hnewline
  next h => exact absurd (List.cons.inj h).1 hreturn
  next => rfl

theorem readKey_bare (bare : ∀ d ∈ c :: key, isBare d) {stop : Char} (other : isBare stop = false)
    (tail : List Char) : readKey (c :: key ++ stop :: tail) = some (c :: key, stop :: tail) := by
  have hquote : c ≠ '"' := ne_of_test (bare c List.mem_cons_self) rfl
  have hapostrophe : c ≠ '\'' := ne_of_test (bare c List.mem_cons_self) rfl
  have htake : (c :: key ++ stop :: tail).takeWhile isBare = c :: key := by
    rw [List.takeWhile_append_of_pos bare, List.takeWhile_cons_of_neg (by rw [other]; decide),
      List.append_nil]
  have hdrop : (c :: key ++ stop :: tail).dropWhile isBare = stop :: tail := by
    rw [List.dropWhile_append_of_pos bare, List.dropWhile_cons_of_neg (by rw [other]; decide)]
  rw [readKey]
  · rw [htake, hdrop]
    rfl
  · simpa using hquote
  · simpa using hapostrophe

/-- A key without quotes is a path of its own, where no dot follows. -/
theorem readPath_bare (bare : ∀ d ∈ c :: key, isBare d) {stop : Char}
    (other : isBare stop = false) {after : List Char} (skips : skipSpaces (stop :: tail) = after)
    (dot : ∀ more, after ≠ '.' :: more) :
    readPath maxDepth (c :: key ++ stop :: tail) = some ([c :: key], after) := by
  have hspace := isSpace_of_isBare (bare c List.mem_cons_self)
  have hskip : skipSpaces (c :: key ++ stop :: tail) = c :: key ++ stop :: tail :=
    skipSpaces_cons hspace
  obtain ⟨fuel, hfuel⟩ : ∃ fuel, maxDepth = fuel + 1 := ⟨maxDepth - 1, rfl⟩
  rw [hfuel, readPath, hskip, readKey_bare bare other]
  simp only [Option.bind_eq_bind, Option.bind_some, skips]

/-- **A header** of one key, on a line of its own. -/
theorem readStatement_header (bare : ∀ d ∈ c :: key, isBare d) (rest : List Char) :
    readStatement ('[' :: (c :: key ++ ']' :: '\n' :: rest)) =
      some (some (.header [c :: key]), '\n' :: rest) := by
  have hbracket : c ≠ '[' := ne_of_test (bare c List.mem_cons_self) rfl
  have hpath : readPath maxDepth (c :: key ++ ']' :: '\n' :: rest) =
      some ([c :: key], ']' :: '\n' :: rest) := readPath_bare bare rfl rfl (by simp)
  have hheader : readHeader (c :: key ++ ']' :: '\n' :: rest) =
      some (.header [c :: key], '\n' :: rest) := by
    rw [readHeader]
    · rw [hpath]
      rfl
    · simpa using hbracket
  rw [readStatement, skipSpaces_cons (by decide)]
  simp only [hheader, Option.map_some]

/-- **A key with a written value**, on a line of its own. -/
theorem readStatement_assign (bare : ∀ d ∈ c :: key, isBare d) {v : Value} (value : Written text v)
    (rest : List Char) :
    readStatement (c :: key ++ ' ' :: '=' :: ' ' :: (text ++ '\n' :: rest)) =
      some (some (.assign [c :: key] v), '\n' :: rest) := by
  have hc := bare c List.mem_cons_self
  have hbracket : c ≠ '[' := ne_of_test hc rfl
  have hpath : readPath maxDepth (c :: key ++ ' ' :: '=' :: ' ' :: (text ++ '\n' :: rest)) =
      some ([c :: key], '=' :: ' ' :: (text ++ '\n' :: rest)) :=
    readPath_bare bare rfl rfl (by simp)
  have hvalue : skipSpaces (' ' :: (text ++ '\n' :: rest)) = text ++ '\n' :: rest := by
    obtain ⟨first, more, rfl, space⟩ := value.begins
    exact skipSpaces_cons space
  have hassign : readAssignment skipSpaces (readValue maxDepth)
      (c :: key ++ ' ' :: '=' :: ' ' :: (text ++ '\n' :: rest)) =
        some (([c :: key], v), '\n' :: rest) := by
    have hequals : skipSpaces ('=' :: ' ' :: (text ++ '\n' :: rest)) =
        '=' :: ' ' :: (text ++ '\n' :: rest) := rfl
    simp only [readAssignment, hpath, Option.bind_eq_bind, Option.bind_some, hequals, hvalue,
      value.reads]
  have hskip : skipSpaces (c :: key ++ ' ' :: '=' :: ' ' :: (text ++ '\n' :: rest)) =
      c :: key ++ ' ' :: '=' :: ' ' :: (text ++ '\n' :: rest) :=
    skipSpaces_cons (isSpace_of_isBare hc)
  have hend : lineEnd (c :: key ++ ' ' :: '=' :: ' ' :: (text ++ '\n' :: rest)) = none :=
    lineEnd_bare hc
  rw [readStatement, hskip]
  split
  next h => exact absurd (List.cons.inj h).1 hbracket
  next => simp only [hend, hassign, Option.map_some]

/-- **The lines of a document**, and the statements that they make. -/
inductive Lines : List Char → List Statement → Prop where
  | none : Lines [] []
  | line {text rest : List Char} {statement : Option Statement} {others : List Statement} :
      readStatement (text ++ '\n' :: rest) = some (statement, '\n' :: rest) → Lines rest others →
        Lines (text ++ '\n' :: rest) (statement.toList ++ others)

/-- Every line has a character of its own, so the length of a document is fuel enough. -/
theorem Lines.readLines {statements : List Statement} (h : Lines text statements) {fuel : Nat}
    (enough : text.length ≤ fuel) : Toml.readLines fuel text = some statements := by
  induction h generalizing fuel with
  | none => cases fuel <;> rfl
  | @line text rest statement others reads _ ih =>
    rw [List.length_append, List.length_cons] at enough
    cases fuel with
    | zero => omega
    | succ fuel =>
      have hrest : Toml.readLines fuel rest = some others := ih (by omega)
      have hend : lineEnd ('\n' :: rest) = some rest := rfl
      rw [Toml.readLines]
      · simp only [reads, hend, hrest, Option.bind_eq_bind, Option.bind_some]
      · simp

/-- **A document of lines is read as all of their statements.** -/
theorem Lines.readStatements {statements : List Statement} (h : Lines text statements)
    (mark : ∀ first ∈ text.head?, first.toNat ≠ 0xfeff) :
    Toml.readStatements text = some statements := by
  have hskip : skipMark text = text := by
    cases text with
    | nil => rfl
    | cons first more => exact if_neg (mark first rfl)
  rw [Toml.readStatements, hskip]
  exact h.readLines (Nat.le_refl _)

end PocketCalc.Toml
