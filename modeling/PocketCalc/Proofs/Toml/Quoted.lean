import PocketCalc.Toml.Quoted

/-!
# Written strings are read back

Each of the four forms is read back by its own reader. In the basic forms the characters are written
one by one, as themselves or as an escape; `Spells` says which pieces stand for which character, and
both readers of basic strings take a piece for its character (`basicBody_spells`,
`linesBody_spells`). In the forms on several lines a quote is harder: a reader takes up to five in a
row for the end, so the count of quotes goes along with the text (`linesBody_linesText`,
`literalLinesBody_append`).

**The law** (`readString_writeString`): a written text is read back, and what follows it is left,
provided that it does not go on with a quote.

**What it does not establish.** Which of the forms is chosen for a text, beyond that the form is one
that can hold it.
-/

namespace PocketCalc.Toml

variable {c : Char} {text tail rest : List Char}

/-! ## Characters -/

theorem isPlain_iff : isPlain c ↔ c = '\t' ∨ 0x20 ≤ c.toNat ∧ c.toNat ≠ 0x7f := by
  simp [isPlain]

/-- A test tells characters apart. -/
theorem ne_of_test {p : Char → Bool} {d : Char} (holds : p c) (fails : p d = false) : c ≠ d := by
  rintro rfl
  rw [holds] at fails
  cases fails

theorem hexChar?_hexDigit {n : Nat} (small : n < 0x80) :
    hexChar? ['0', '0', hexDigit (n / 16), hexDigit (n % 16)] = some (Char.ofNat n) := by
  revert n
  decide

/-- **A piece of a basic string that stands for a character**: the character itself, an escape of
one letter, or its code. -/
inductive Spells : List Char → Char → Prop where
  | plain {c : Char} : isPlain c → c ≠ '"' → c ≠ '\\' → Spells [c] c
  | letter {l c : Char} : shortEscape? l = some c → Spells ['\\', l] c
  | code {a b c : Char} : hexChar? ['0', '0', a, b] = some c →
      Spells ['\\', 'u', '0', '0', a, b] c

theorem Spells.exists_cons {piece : List Char} (h : Spells piece c) :
    ∃ first more, piece = first :: more ∧ isPlain first ∧ first ≠ '"' := by
  cases h with
  | plain plain quote _ => exact ⟨c, [], rfl, plain, quote⟩
  | letter _ => exact ⟨'\\', _, rfl, by decide, by decide⟩
  | code _ => exact ⟨'\\', _, rfl, by decide, by decide⟩

/-- No piece begins with a quote. -/
theorem Spells.ne_quote {piece : List Char} (h : Spells piece c) (tail more : List Char) :
    piece ++ tail ≠ '"' :: more := by
  obtain ⟨first, _, rfl, -, quote⟩ := h.exists_cons
  exact fun heq => quote (List.cons.inj heq).1

theorem spells_escapeChar (quote : c ≠ '"') : Spells (escapeChar c) c := by
  unfold escapeChar
  split
  next h => subst h; exact .letter rfl
  split
  next h => subst h; exact .letter rfl
  split
  next h => subst h; exact .letter rfl
  split
  next h => subst h; exact .letter rfl
  split
  next h => subst h; exact .letter rfl
  next backslash =>
  split
  next plain => exact .plain plain quote backslash
  next control =>
    have small : c.toNat < 0x80 := by
      rw [isPlain_iff] at control
      omega
    exact .code ((hexChar?_hexDigit small).trans (by rw [Char.ofNat_toNat]))

/-! ## Basic strings on one line -/

theorem basicBody_spells {piece : List Char} (h : Spells piece c) (tail : List Char) :
    basicBody (piece ++ tail) = Reading.push (some c) (basicBody tail) := by
  cases h with
  | plain plain quote backslash =>
    rw [List.singleton_append, basicBody]
    · simp [plain, backslash]
    all_goals simp_all
  | letter h =>
    unfold shortEscape? at h
    split at h <;> cases h <;> rfl
  | code h =>
    rw [← h]
    rfl

/-- The piece that stands for a character on one line. -/
def basicPiece (c : Char) : List Char :=
  if c = '"' then ['\\', '"'] else if c = '\n' then ['\\', 'n'] else escapeChar c

theorem spells_basicPiece (c : Char) : Spells (basicPiece c) c := by
  unfold basicPiece
  split
  next h => subst h; exact .letter rfl
  next quote =>
  split
  next h => subst h; exact .letter rfl
  next => exact spells_escapeChar quote

theorem basicText_cons (c : Char) (text : List Char) :
    basicText (c :: text) = basicPiece c ++ basicText text := List.flatMap_cons

theorem basicBody_basicText (text rest : List Char) :
    basicBody (basicText text ++ '"' :: rest) = some (text, rest) := by
  induction text with
  | nil => rfl
  | cons c text ih =>
    rw [basicText_cons, List.append_assoc, basicBody_spells (spells_basicPiece c), ih]
    rfl

/-! ## Basic strings on several lines -/

theorem linesBody_spells {piece : List Char} (h : Spells piece c) (tail : List Char) :
    linesBody false (piece ++ tail) = Reading.push (some c) (linesBody false tail) := by
  cases h with
  | plain plain quote backslash =>
    have notReturn : c ≠ '\r' := ne_of_test plain rfl
    rw [List.singleton_append, linesBody]
    · simp [plain, backslash]
    all_goals simp_all
  | letter h =>
    unfold shortEscape? at h
    split at h <;> cases h <;> rfl
  | code h =>
    rw [← h]
    rfl

theorem linesBody_newline (tail : List Char) :
    linesBody false ('\n' :: tail) = Reading.push (some '\n') (linesBody false tail) := rfl

/-- A quote is one of the text unless two more follow. -/
theorem linesBody_quote (fewer : ∀ rest, tail ≠ '"' :: '"' :: rest) :
    linesBody false ('"' :: tail) = Reading.push (some '"') (linesBody false tail) := by
  rw [linesBody]
  · rfl
  all_goals simp_all

theorem linesText_cons_of_ne (quote : c ≠ '"') (run : Nat) (text : List Char) :
    linesText run (c :: text) =
      (if c = '\n' then ['\n'] else escapeChar c) ++ linesText 0 text := by
  rw [linesText, if_neg quote]
  split <;> rfl

/-- Where the text does not go on with a quote, or two of them stand before it already, no quote is
written. -/
theorem linesText_ne_quote {run : Nat} (stop : c ≠ '"' ∨ 2 ≤ run) (text tail more : List Char) :
    linesText run (c :: text) ++ tail ≠ '"' :: more := by
  by_cases quote : c = '"'
  · have full : 2 ≤ run := stop.resolve_left (absurd quote)
    rw [linesText, if_pos quote, if_neg (Nat.not_lt.mpr full)]
    simp
  · rw [linesText_cons_of_ne quote, List.append_assoc]
    split
    · simp
    · exact (spells_escapeChar quote).ne_quote _ _

/-- What stands after a quote of the text: two quotes and more only at the end of it. -/
theorem linesText_after_quote (run : Nat) (text tail : List Char) :
    text = [] ∨ (text = ['"'] ∧ run = 0) ∨
      ∀ more, linesText (run + 1) text ++ tail ≠ '"' :: '"' :: more := by
  rcases text with - | ⟨d, text⟩
  · exact .inl rfl
  by_cases stop : d ≠ '"' ∨ 2 ≤ run + 1
  · exact .inr (.inr fun more => linesText_ne_quote stop text tail _)
  · obtain ⟨rfl, rfl⟩ : d = '"' ∧ run = 0 := by
      have hd := Decidable.not_not.mp (not_or.mp stop).1
      exact ⟨hd, by omega⟩
    rcases text with - | ⟨e, text⟩
    · exact .inr (.inl ⟨rfl, rfl⟩)
    · refine .inr (.inr fun more heq => ?_)
      rw [linesText, if_pos rfl, if_pos (by decide), List.cons_append] at heq
      exact linesText_ne_quote (.inr (Nat.le_refl 2)) text tail more (List.cons.inj heq).2

theorem linesBody_close (free : ∀ more, rest ≠ '"' :: more) :
    linesBody false ('"' :: '"' :: '"' :: rest) = some ([], rest) := by
  rw [linesBody]
  all_goals simp_all

theorem linesBody_close_one (free : ∀ more, rest ≠ '"' :: more) :
    linesBody false ('"' :: '"' :: '"' :: '"' :: rest) = some (['"'], rest) := by
  rw [linesBody]
  all_goals simp_all

/-- **A text on several lines is read back**, with as many quotes before it as were counted. -/
theorem linesBody_linesText (free : ∀ more, rest ≠ '"' :: more) (run : Nat) (text : List Char) :
    linesBody false (linesText run text ++ '"' :: '"' :: '"' :: rest) = some (text, rest) := by
  induction text generalizing run with
  | nil => exact linesBody_close free
  | cons c text ih =>
    by_cases quote : c = '"'
    · subst quote
      by_cases few : run < 2
      · rw [linesText, if_pos rfl, if_pos few, List.cons_append]
        -- the quotes at the end of the text are read with the three that close the string
        obtain rfl | ⟨rfl, rfl⟩ | fewer :=
          linesText_after_quote run text ('"' :: '"' :: '"' :: rest)
        · exact linesBody_close_one free
        · rfl
        · rw [linesBody_quote fewer, ih]
          rfl
      · have hpiece : linesText run ('"' :: text) = ['\\', '"'] ++ linesText 0 text := by
          rw [linesText, if_pos rfl, if_neg few]
          rfl
        rw [hpiece, List.append_assoc, linesBody_spells (.letter rfl), ih]
        rfl
    · rw [linesText_cons_of_ne quote, List.append_assoc]
      split
      next h =>
        subst h
        rw [List.singleton_append, linesBody_newline, ih]
        rfl
      next =>
        rw [linesBody_spells (spells_escapeChar quote), ih]
        rfl

/-! ## Literal strings -/

theorem literalBody_append (rest : List Char) (plain : ∀ c ∈ text, isPlain c)
    (apostrophe : '\'' ∉ text) : literalBody (text ++ '\'' :: rest) = some (text, rest) := by
  induction text with
  | nil => rfl
  | cons c text ih =>
    have hc : c ≠ '\'' := fun h => apostrophe (h ▸ List.mem_cons_self)
    have ih := ih (fun d hd => plain d (List.mem_cons_of_mem _ hd))
      (fun hd => apostrophe (List.mem_cons_of_mem _ hd))
    rw [List.cons_append, literalBody, if_pos (plain c List.mem_cons_self), ih]
    · rfl
    · simpa using hc

theorem le_longestRun (c : Char) (run : Nat) (text : List Char) :
    run ≤ longestRun c run text := by
  induction text generalizing run with
  | nil => exact Nat.le_refl run
  | cons d text ih =>
    rw [longestRun]
    split
    · exact Nat.le_trans (Nat.le_succ run) (ih (run + 1))
    · exact Nat.le_max_left _ _

theorem not_mem_of_longestRun (zero : longestRun c 0 text = 0) : c ∉ text := by
  induction text with
  | nil => exact List.not_mem_nil
  | cons d text ih =>
    rw [longestRun] at zero
    by_cases same : d = c
    · rw [if_pos same] at zero
      have hrun := le_longestRun c (0 + 1) text
      omega
    · rw [if_neg same] at zero
      rw [List.mem_cons, not_or]
      exact ⟨fun h => same h.symm, ih (by omega)⟩

/-- An apostrophe is one of the text unless two more follow. -/
theorem literalLinesBody_apostrophe (fewer : ∀ more, tail ≠ '\'' :: '\'' :: more) :
    literalLinesBody ('\'' :: tail) = Reading.push (some '\'') (literalLinesBody tail) := by
  rw [literalLinesBody]
  · rfl
  all_goals simp_all

theorem literalLinesBody_plain (code : isCode c = false) (apostrophe : c ≠ '\'') :
    literalLinesBody (c :: tail) = Reading.push (some c) (literalLinesBody tail) := by
  have notReturn : c ≠ '\r' := (ne_of_test rfl code).symm
  have stays : (isPlain c || decide (c = '\n')) = true := by
    cases plain : isPlain c with
    | true => rfl
    | false => simpa [isCode, plain] using code
  rw [literalLinesBody, if_pos stays]
  all_goals simp_all

theorem literalLinesBody_close (free : ∀ more, rest ≠ '\'' :: more) :
    literalLinesBody ('\'' :: '\'' :: '\'' :: rest) = some ([], rest) := by
  rw [literalLinesBody]
  all_goals simp_all

theorem literalLinesBody_close_one (free : ∀ more, rest ≠ '\'' :: more) :
    literalLinesBody ('\'' :: '\'' :: '\'' :: '\'' :: rest) = some (['\''], rest) := by
  rw [literalLinesBody]
  all_goals simp_all

/-- What stands after an apostrophe of a text without three of them in a row. -/
theorem after_apostrophe {run : Nat} (short : longestRun '\'' (run + 1) text ≤ 2)
    (tail : List Char) :
    text = [] ∨ text = ['\''] ∨ ∀ more, text ++ tail ≠ '\'' :: '\'' :: more := by
  rcases text with - | ⟨d, - | ⟨e, text⟩⟩
  · exact .inl rfl
  · by_cases hd : d = '\''
    · exact .inr (.inl (by rw [hd]))
    · exact .inr (.inr fun more heq => hd (List.cons.inj heq).1)
  · refine .inr (.inr fun more heq => ?_)
    simp only [List.cons_append, List.cons.injEq] at heq
    obtain ⟨rfl, rfl, -⟩ := heq
    rw [longestRun, if_pos rfl, longestRun, if_pos rfl] at short
    have := le_longestRun '\'' (run + 1 + 1 + 1) text
    omega

/-- **A literal text on several lines is read back**, with as many apostrophes before it as were
counted. -/
theorem literalLinesBody_append (free : ∀ more, rest ≠ '\'' :: more) {run : Nat}
    (codes : ∀ c ∈ text, isCode c = false) (short : longestRun '\'' run text ≤ 2) :
    literalLinesBody (text ++ '\'' :: '\'' :: '\'' :: rest) = some (text, rest) := by
  induction text generalizing run with
  | nil => exact literalLinesBody_close free
  | cons c text ih =>
    have ih := fun run => @ih run fun d hd => codes d (List.mem_cons_of_mem _ hd)
    rw [longestRun] at short
    by_cases apostrophe : c = '\''
    · subst apostrophe
      rw [if_pos rfl] at short
      rw [List.cons_append]
      -- the apostrophes at the end of the text are read with the three that close the string
      obtain rfl | rfl | fewer := after_apostrophe short ('\'' :: '\'' :: '\'' :: rest)
      · exact literalLinesBody_close_one free
      · rfl
      · rw [literalLinesBody_apostrophe fewer, ih _ short]
        rfl
    · rw [if_neg apostrophe] at short
      rw [List.cons_append, literalLinesBody_plain (codes c List.mem_cons_self) apostrophe,
        ih 0 (Nat.le_trans (Nat.le_max_right _ _) short)]
      rfl

/-! ## Forms -/

/-- **The texts that a form can hold.** The basic ones can hold any. -/
def Form.Fits (text : List Char) : Form → Prop
  | basic => True
  | literal => (∀ c ∈ text, isPlain c) ∧ '\'' ∉ text
  | basicLines => True
  | literalLines => (∀ c ∈ text, isCode c = false) ∧ longestRun '\'' 0 text ≤ 2

theorem any_isCode_eq_false : text.any isCode = false ↔ ∀ c ∈ text, isCode c = false := by
  simp

theorem isPlain_of_isCode (code : isCode c = false) (newline : c ≠ '\n') : isPlain c := by
  cases plain : isPlain c with
  | true => rfl
  | false => exact absurd code (by simp [isCode, plain, newline])

/-- The form that is chosen for a text can hold it. -/
theorem Form.fits_of (text : List Char) : (Form.of text).Fits text := by
  unfold Form.of
  simp only
  split
  next => trivial
  split
  next h =>
    simp only [Bool.and_eq_true, Bool.not_eq_true', decide_eq_true_eq, any_isCode_eq_false] at h
    obtain ⟨⟨codes, apostrophes⟩, lines⟩ := h
    refine ⟨fun c hc => isPlain_of_isCode (codes c hc) ?_, not_mem_of_longestRun apostrophes⟩
    rintro rfl
    simp [hc] at lines
  split
  next => trivial
  split
  next h =>
    simp only [Bool.and_eq_true, Bool.not_eq_true', decide_eq_true_eq, any_isCode_eq_false] at h
    exact h
  split
  next => trivial
  next => trivial

/-! ## Strings -/

theorem readString_quote (fewer : ∀ more, tail ≠ '"' :: '"' :: more) :
    readString ('"' :: tail) = basicBody tail := by
  rw [readString]
  · rfl
  all_goals simp_all

theorem readString_apostrophe (fewer : ∀ more, tail ≠ '\'' :: '\'' :: more) :
    readString ('\'' :: tail) = literalBody tail := by
  rw [readString]
  · rfl
  all_goals simp_all

theorem skipLineEnd_plain (plain : isPlain c) : skipLineEnd (c :: tail) = c :: tail := by
  have newline : c ≠ '\n' := ne_of_test plain rfl
  have notReturn : c ≠ '\r' := ne_of_test plain rfl
  rw [skipLineEnd]
  all_goals simp_all

/-- The line end that does not count is there exactly where it is needed. -/
theorem skipLineEnd_opening {body : List Char}
    (begins : '\n' ∉ text → ∃ first more, body = first :: more ∧ isPlain first) :
    skipLineEnd ((if text.contains '\n' then ['\n'] else []) ++ body) = body := by
  split
  next => rfl
  next none =>
    obtain ⟨first, more, rfl, plain⟩ := begins (by simpa using none)
    exact skipLineEnd_plain plain

theorem linesText_begins (newline : '\n' ∉ text) (tail : List Char) :
    ∃ first more, linesText 0 text ++ '"' :: tail = first :: more ∧ isPlain first := by
  cases text with
  | nil => exact ⟨'"', tail, rfl, by decide⟩
  | cons c text =>
    by_cases quote : c = '"'
    · subst quote
      exact ⟨'"', _, rfl, by decide⟩
    · have hc : c ≠ '\n' := fun h => newline (h ▸ List.mem_cons_self)
      obtain ⟨first, more, hpiece, plain, -⟩ := (spells_escapeChar quote).exists_cons
      rw [linesText_cons_of_ne quote, if_neg hc, hpiece]
      exact ⟨first, _, rfl, plain⟩

/-- **A text in a form that can hold it is read back**, if no quote follows. -/
theorem readString_write {form : Form} (fits : form.Fits text)
    (quote : ∀ more, rest ≠ '"' :: more) (apostrophe : ∀ more, rest ≠ '\'' :: more) :
    readString (form.write text ++ rest) = some (text, rest) := by
  cases form with
  | basic =>
    have hwrite : Form.basic.write text ++ rest = '"' :: (basicText text ++ '"' :: rest) := by
      simp [Form.write]
    have fewer : ∀ more, basicText text ++ '"' :: rest ≠ '"' :: '"' :: more := by
      intro more
      cases text with
      | nil => exact fun heq => quote more (List.cons.inj heq).2
      | cons c text =>
        rw [basicText_cons, List.append_assoc]
        exact (spells_basicPiece c).ne_quote _ _
    rw [hwrite, readString_quote fewer, basicBody_basicText]
  | literal =>
    have hwrite : Form.literal.write text ++ rest = '\'' :: (text ++ '\'' :: rest) := by
      simp [Form.write]
    have fewer : ∀ more, text ++ '\'' :: rest ≠ '\'' :: '\'' :: more := by
      intro more heq
      cases text with
      | nil => exact apostrophe more (List.cons.inj heq).2
      | cons c text => exact fits.2 ((List.cons.inj heq).1 ▸ List.mem_cons_self)
    rw [hwrite, readString_apostrophe fewer, literalBody_append rest fits.1 fits.2]
  | basicLines =>
    have hwrite : Form.basicLines.write text ++ rest =
        '"' :: '"' :: '"' :: ((if text.contains '\n' then ['\n'] else []) ++
          (linesText 0 text ++ '"' :: '"' :: '"' :: rest)) := by
      simp [Form.write, openLines]
    rw [hwrite, readString, skipLineEnd_opening fun newline => linesText_begins newline _,
      linesBody_linesText quote]
  | literalLines =>
    have hwrite : Form.literalLines.write text ++ rest =
        '\'' :: '\'' :: '\'' :: ((if text.contains '\n' then ['\n'] else []) ++
          (text ++ '\'' :: '\'' :: '\'' :: rest)) := by
      simp [Form.write, openLines]
    rw [hwrite, readString, skipLineEnd_opening ?_,
      literalLinesBody_append apostrophe fits.1 fits.2]
    intro newline
    cases text with
    | nil => exact ⟨'\'', _, rfl, by decide⟩
    | cons c text =>
      have hc : c ≠ '\n' := fun h => newline (h ▸ List.mem_cons_self)
      exact ⟨c, _, rfl, isPlain_of_isCode (fits.1 c List.mem_cons_self) hc⟩

/-- **A written text is read back**, and what follows it is left. -/
theorem readString_writeString (text : List Char) (quote : ∀ more, rest ≠ '"' :: more)
    (apostrophe : ∀ more, rest ≠ '\'' :: more) :
    readString (writeString text ++ rest) = some (text, rest) :=
  readString_write (Form.fits_of text) quote apostrophe

end PocketCalc.Toml
