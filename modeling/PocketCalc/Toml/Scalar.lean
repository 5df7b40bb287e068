import PocketCalc.Toml.Value

/-!
# Scalars without quotes

The words that stand for a truth value, a number, or a point in time. A word reaches up to a space,
a line end, a comment or a sign of punctuation, and its class is decided by its own characters and
not by what follows.

**Numbers.** Underscores may stand between two digits. Decimal numbers have no leading zero. A
number is told from other words by its shape alone: it may be one and yet have no value, such as
`0x`, `1_a`, an integer beyond 128 bits, or a decimal fraction past the range of double precision.

**The law** (`integer?_toDigits`): a number written in decimal digits has its own value.
-/

namespace PocketCalc.Toml.Scalar

def isWordChar (c : Char) : Bool :=
  c ≠ '=' && c ≠ ',' && c ≠ '[' && c ≠ ']' && c ≠ '\x7b' && c ≠ '\x7d' && c ≠ '#'
    && c ≠ ' ' && c ≠ '\t' && c ≠ '\r' && c ≠ '\n'

/-! ## Digits -/

def digitValue (c : Char) : Nat :=
  if c.isDigit then c.toNat - '0'.toNat
  else if 'a' ≤ c then c.toNat - 'a'.toNat + 10
  else c.toNat - 'A'.toNat + 10

def isDigitOf (base : Nat) (c : Char) : Bool :=
  (c.isDigit || ('a' ≤ c && c ≤ 'f') || ('A' ≤ c && c ≤ 'F')) && digitValue c < base

/-- Whether underscores stand between digits only, `before` saying whether a digit stands just before
the text. -/
def isGrouped (isDigit : Char → Bool) (before : Bool) : List Char → Bool
  | [] => true
  | '_' :: rest => before && rest.head?.any isDigit && isGrouped isDigit false rest
  | c :: rest => isGrouped isDigit (isDigit c) rest

def ungroup (text : List Char) : List Char := text.filter (· ≠ '_')

/-! ## Whole numbers -/

/-- The value of a whole number in a base, if it fits 128 bits; without digits it has none. -/
def integer? (base : Nat) (negative : Bool) (digits : List Char) : Option Int :=
  if digits.isEmpty || !digits.all (isDigitOf base) then none
  else
    let size : Int := (digits.foldl (fun n c => base * n + digitValue c) 0 : Nat)
    let n := if negative then -size else size
    if -2 ^ 127 ≤ n ∧ n < 2 ^ 128 then some n else none

theorem isDigitOf_ten {c : Char} (digit : c.isDigit = true) : isDigitOf 10 c = true := by
  have bounds := Char.isDigit_iff_toNat.mp digit
  have zero : '0'.toNat = 48 := rfl
  have nine : '9'.toNat = 57 := rfl
  simp only [isDigitOf, digitValue, digit, Bool.true_or, Bool.true_and, if_true, decide_eq_true_eq]
  omega

theorem foldl_digitValue {digits : List Char} (decimal : ∀ c ∈ digits, c.isDigit = true)
    (start : Nat) :
    digits.foldl (fun n c => 10 * n + digitValue c) start = Nat.ofDigitChars 10 digits start := by
  induction digits generalizing start with
  | nil => rfl
  | cons c rest ih =>
    rw [List.foldl_cons, ih fun d hd => decimal d (List.mem_cons_of_mem _ hd), digitValue,
      if_pos (decimal c List.mem_cons_self)]
    rfl

theorem integer?_toDigits {n : Nat} (fits : n < 2 ^ 128) :
    integer? 10 false (Nat.toDigits 10 n) = some (n : Int) := by
  have decimal : ∀ c ∈ Nat.toDigits 10 n, c.isDigit = true := fun c hc =>
    Nat.isDigit_of_mem_toDigits (by decide) (by decide) hc
  have all : (Nat.toDigits 10 n).all (isDigitOf 10) = true :=
    List.all_eq_true.mpr fun c hc => isDigitOf_ten (decimal c hc)
  have some : (Nat.toDigits 10 n).isEmpty = false :=
    List.isEmpty_eq_false_iff.mpr Nat.toDigits_ne_nil
  simp only [integer?, all, some, Bool.not_true, Bool.or_false, Bool.false_eq_true, if_false,
    foldl_digitValue decimal, Nat.ofDigitChars_toDigits (by decide : 1 < 10) (by decide : 10 ≤ 10)]
  rw [if_pos]
  omega

/-- An integer by its word, with or without a value. -/
def integer (word : List Char) (n : Option Int) : Value := n.elim (.unreadable word) .integer

/-- A whole number in a base, after its mark. -/
def based? (base : Nat) (word digits : List Char) : Option Value :=
  if digits.all (fun c => isDigitOf base c || c = '_') && isGrouped (isDigitOf base) false digits
  then some (integer word (integer? base false (ungroup digits)))
  else none

/-! ## Decimal fractions -/

/-- Digits with underscores among them, at least one, and the text after them. -/
def digitRun? (text : List Char) : Option (List Char × List Char) :=
  let isPart := fun c : Char => c.isDigit || c = '_'
  let digits := ungroup (text.takeWhile isPart)
  if digits.isEmpty then none else some (digits, text.dropWhile isPart)

/-- The power of ten at the end of a decimal fraction. -/
def power? : List Char → Option Int
  | [] => some 0
  | mark :: rest =>
    if mark = 'e' ∨ mark = 'E' then
      let (negative, body) := Numeral.splitSign rest
      match digitRun? body with
      | some (digits, []) =>
        let n : Int := Nat.ofDigitChars 10 digits 0
        some (if negative then -n else n)
      | _ => none
    else none

/-- A decimal fraction without its sign: digits, and after them a point with digits, a power of
ten, or both. -/
def fraction? (negative : Bool) (body : List Char) : Option Numeral := do
  let (whole, rest) ← digitRun? body
  if body.head? = some '0' && 2 ≤ whole.length then none
  else
    match rest with
    | '.' :: after =>
      let (places, after) ← digitRun? after
      let power ← power? after
      some (.decimal negative ((whole ++ places).dropWhile (· = '0')) (power - places.length))
    | _ =>
      let power ← power? rest
      some (.decimal negative (whole.dropWhile (· = '0')) power)

/-- A decimal fraction within the range of double precision. -/
def inRange (n : Numeral) : Bool :=
  match n with
  | .decimal _ digits exponent =>
    Numeral.magnitude .double digits exponent < Binary.Format.double.infinity
  | _ => true

/-- An infinity or the undefined value, by name. -/
def named? (word : List Char) : Option Numeral :=
  let (negative, body) := Numeral.splitSign word
  if body = "inf".toList then some (.infinite negative)
  else if body = "nan".toList then some .nan
  else none

/-! ## Points in time -/

/-- A number of exactly `count` digits, and the text after it. -/
def fixed? (count : Nat) (text : List Char) : Option (Nat × List Char) :=
  (Numeral.readDigits (text.take count)).bind fun n =>
    if count ≤ text.length then some (n, text.drop count) else none

def daysIn (year month : Nat) : Nat :=
  if month = 2 then
    if year % 4 = 0 ∧ (year % 100 ≠ 0 ∨ year % 400 = 0) then 29 else 28
  else if month = 4 ∨ month = 6 ∨ month = 9 ∨ month = 11 then 30
  else 31

def afterDate? (text : List Char) : Option (List Char) :=
  match fixed? 4 text with
  | some (year, '-' :: text) =>
    match fixed? 2 text with
    | some (month, '-' :: text) =>
      match fixed? 2 text with
      | some (day, rest) =>
        if 1 ≤ month ∧ month ≤ 12 ∧ 1 ≤ day ∧ day ≤ daysIn year month then some rest else none
      | none => none
    | _ => none
  | _ => none

def afterMinutes? (text : List Char) : Option (List Char) :=
  match fixed? 2 text with
  | some (hour, ':' :: text) =>
    match fixed? 2 text with
    | some (minute, rest) => if hour ≤ 23 ∧ minute ≤ 59 then some rest else none
    | none => none
  | _ => none

/-- The text after a time of day: seconds may follow the minutes, and a fraction the seconds. -/
def afterTime? (text : List Char) : Option (List Char) :=
  match afterMinutes? text with
  | some (':' :: text) =>
    match fixed? 2 text with
    | some (second, rest) =>
      if 60 < second then none
      else
        match rest with
        | '.' :: places =>
          if (places.takeWhile Char.isDigit).isEmpty then none
          else some (places.dropWhile Char.isDigit)
        | _ => some rest
    | none => none
  | rest => rest

/-- The end of a point in time: nothing, or a distance from universal time. -/
def isOffset : List Char → Bool
  | [] => true
  | ['Z'] => true
  | ['z'] => true
  | '+' :: rest => afterMinutes? rest = some []
  | '-' :: rest => afterMinutes? rest = some []
  | _ => false

/-- A date, a time of day, or a date with a time and perhaps an offset. -/
def isInstant (text : List Char) : Bool :=
  match afterDate? text with
  | some [] => true
  | some (mark :: rest) =>
    (mark = 'T' || mark = 't' || mark = ' ') && ((afterTime? rest).map isOffset).getD false
  | none => afterTime? text = some []

/-! ## Words -/

/-- A decimal number or a point in time, by what follows the digits in front. -/
def number? (word : List Char) : Option Value :=
  let (negative, body) := Numeral.splitSign word
  let digits := body.takeWhile Char.isDigit
  let value := integer word (integer? 10 negative (ungroup body))
  match body.dropWhile Char.isDigit with
  | [] => if digits = ['0'] || (digits.head?.any (· ≠ '0')) then some value else none
  | mark :: rest =>
    if digits.isEmpty then none
    else if mark = '-' || mark = ':' then if isInstant word then some (.instant word) else none
    else if (mark :: rest).any (fun c => c = '.' || c = 'e' || c = 'E') then
      if isGrouped Char.isDigit false body then
        (fraction? negative body).map fun n => if inRange n then .float n else .unreadable word
      else none
    else if mark = '_' && body.head? ≠ some '0' && isGrouped (isDigitOf 16) false body then
      some value
    else none

/-- **The value of a word.** -/
def read? (word : List Char) : Option Value :=
  if word = "true".toList then some (.boolean true)
  else if word = "false".toList then some (.boolean false)
  else
    match named? word with
    | some n => some (.float n)
    | none =>
      match word with
      | '0' :: 'x' :: digits => based? 16 word digits
      | '0' :: 'o' :: digits => based? 8 word digits
      | '0' :: 'b' :: digits => based? 2 word digits
      | _ => number? word

/-- **A word and its value** at the front of a text. A date takes a time of day with it that stands
after a single space. -/
def read (text : List Char) : Option (Value × List Char) :=
  let word := text.takeWhile isWordChar
  let rest := text.dropWhile isWordChar
  match rest with
  | ' ' :: c :: after =>
    if c.isDigit && afterDate? word = some [] then
      let time := (c :: after).takeWhile isWordChar
      (read? (word ++ ' ' :: time)).map fun v => (v, (c :: after).dropWhile isWordChar)
    else (read? word).map fun v => (v, rest)
  | _ => (read? word).map fun v => (v, rest)

end PocketCalc.Toml.Scalar
