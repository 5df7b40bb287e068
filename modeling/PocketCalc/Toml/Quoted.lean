/-!
# Strings in TOML

The four written forms of a string, and the reading of each. In the **basic** forms a backslash
begins an escape; in the **literal** forms every character stands for itself. The forms on one line
are closed by one quote, the forms on several lines by three, and there a line end right after the
opening quotes does not count.

**Choosing a form.** A text is written in the first form that needs no escape at all; where every
form needs one, in the basic form, on several lines if the text has a line end.

**The law** that settings rest on: reading a written string gives the text back, and leaves what
follows the closing quotes, if that does not begin with one more quote.
-/

namespace PocketCalc.Toml

/-- Characters that may stand in a string or a comment as they are: all but the controls, the tab
being allowed. -/
def isPlain (c : Char) : Bool := c = '\t' || (0x20 ≤ c.toNat && c.toNat ≠ 0x7f)

/-! ## Reading -/

/-- What a reader gives: a text, and the characters after it. -/
abbrev Reading := Option (List Char × List Char)

def Reading.push (c : Option Char) (r : Reading) : Reading :=
  match c, r with
  | some c, some (text, rest) => some (c :: text, rest)
  | _, _ => none

def hexValue? (c : Char) : Option Nat :=
  if c.isDigit then some (c.toNat - '0'.toNat)
  else if 'a' ≤ c ∧ c ≤ 'f' then some (c.toNat - 'a'.toNat + 10)
  else if 'A' ≤ c ∧ c ≤ 'F' then some (c.toNat - 'A'.toNat + 10)
  else none

/-- A number of hexadecimal digits, most significant first. -/
def hexNumber? (digits : List Char) : Option Nat :=
  digits.foldlM (fun n c => (hexValue? c).map (16 * n + ·)) 0

/-- The character of a code point; surrogates and numbers too large have none. -/
def hexChar? (digits : List Char) : Option Char :=
  (hexNumber? digits).bind fun n => if n.isValidChar then some (Char.ofNat n) else none

/-- The character of an escape of one letter. -/
def shortEscape? : Char → Option Char
  | 'b' => some '\x08'
  | 't' => some '\t'
  | 'n' => some '\n'
  | 'f' => some '\x0c'
  | 'r' => some '\r'
  | 'e' => some '\x1b'
  | '"' => some '"'
  | '\\' => some '\\'
  | _ => none

/-- The rest of a basic string on one line, after its opening quote. -/
def basicBody : List Char → Reading
  | [] => none
  | '"' :: rest => some ([], rest)
  | '\\' :: 'x' :: a :: b :: rest => Reading.push (hexChar? [a, b]) (basicBody rest)
  | '\\' :: 'u' :: a :: b :: c :: d :: rest =>
    Reading.push (hexChar? [a, b, c, d]) (basicBody rest)
  | '\\' :: 'U' :: a :: b :: c :: d :: e :: f :: g :: h :: rest =>
    Reading.push (hexChar? [a, b, c, d, e, f, g, h]) (basicBody rest)
  | '\\' :: c :: rest => Reading.push (shortEscape? c) (basicBody rest)
  | c :: rest => if isPlain c && c ≠ '\\' then Reading.push (some c) (basicBody rest) else none

/-- The rest of a literal string on one line. -/
def literalBody : List Char → Reading
  | [] => none
  | '\'' :: rest => some ([], rest)
  | c :: rest => if isPlain c then Reading.push (some c) (literalBody rest) else none

/-- Blanks and then a line end: what a backslash at the end of a line stands before. -/
def endsLine (text : List Char) : Bool :=
  match text.dropWhile fun c => c = ' ' || c = '\t' with
  | '\n' :: _ => true
  | '\r' :: '\n' :: _ => true
  | _ => false

/-- The rest of a basic string on several lines. After a backslash at the end of a line, `joining`
holds until the next character that is neither blank nor a line end. Up to two quotes may stand
before the three that close the string. -/
def linesBody (joining : Bool) : List Char → Reading
  | [] => none
  | '"' :: '"' :: '"' :: '"' :: '"' :: rest => some (['"', '"'], rest)
  | '"' :: '"' :: '"' :: '"' :: rest => some (['"'], rest)
  | '"' :: '"' :: '"' :: rest => some ([], rest)
  | '\\' :: 'x' :: a :: b :: rest => Reading.push (hexChar? [a, b]) (linesBody false rest)
  | '\\' :: 'u' :: a :: b :: c :: d :: rest =>
    Reading.push (hexChar? [a, b, c, d]) (linesBody false rest)
  | '\\' :: 'U' :: a :: b :: c :: d :: e :: f :: g :: h :: rest =>
    Reading.push (hexChar? [a, b, c, d, e, f, g, h]) (linesBody false rest)
  | '\\' :: c :: rest =>
    if endsLine (c :: rest) then linesBody true (c :: rest)
    else Reading.push (shortEscape? c) (linesBody false rest)
  | '\r' :: '\n' :: rest =>
    if joining then linesBody true rest
    else Reading.push (some '\r') (Reading.push (some '\n') (linesBody false rest))
  | c :: rest =>
    if joining && (c = ' ' || c = '\t' || c = '\n') then linesBody true rest
    else if (isPlain c || c = '\n') && c ≠ '\\' then Reading.push (some c) (linesBody false rest)
    else none

/-- The rest of a literal string on several lines. -/
def literalLinesBody : List Char → Reading
  | [] => none
  | '\'' :: '\'' :: '\'' :: '\'' :: '\'' :: rest => some (['\'', '\''], rest)
  | '\'' :: '\'' :: '\'' :: '\'' :: rest => some (['\''], rest)
  | '\'' :: '\'' :: '\'' :: rest => some ([], rest)
  | '\r' :: '\n' :: rest =>
    Reading.push (some '\r') (Reading.push (some '\n') (literalLinesBody rest))
  | c :: rest =>
    if isPlain c || c = '\n' then Reading.push (some c) (literalLinesBody rest) else none

/-- A text without the line end that it may begin with. -/
def skipLineEnd : List Char → List Char
  | '\n' :: rest => rest
  | '\r' :: '\n' :: rest => rest
  | rest => rest

/-- **A string on one line**, in either form. -/
def readLineString : List Char → Reading
  | '"' :: rest => basicBody rest
  | '\'' :: rest => literalBody rest
  | _ => none

/-- **A string** in any form. -/
def readString : List Char → Reading
  | '"' :: '"' :: '"' :: rest => linesBody false (skipLineEnd rest)
  | '\'' :: '\'' :: '\'' :: rest => literalLinesBody (skipLineEnd rest)
  | text => readLineString text

/-! ## Writing -/

/-- The longest run of a character in a text, with `run` of them just before it. -/
def longestRun (c : Char) (run : Nat) : List Char → Nat
  | [] => run
  | d :: rest => if d = c then longestRun c (run + 1) rest else max run (longestRun c 0 rest)

def isCode (c : Char) : Bool := !isPlain c && c ≠ '\n'

inductive Form where
  | basic
  | literal
  | basicLines
  | literalLines
  deriving DecidableEq, Repr

/-- **The form of a text**: the first that needs no escape. -/
def Form.of (text : List Char) : Form :=
  let codes := text.any isCode
  let backslash := text.contains '\\'
  let lines := text.contains '\n'
  let quotes := longestRun '"' 0 text
  let apostrophes := longestRun '\'' 0 text
  if !codes && !backslash && quotes = 0 && !lines then .basic
  else if !codes && apostrophes = 0 && !lines then .literal
  else if !codes && !backslash && quotes ≤ 2 then .basicLines
  else if !codes && apostrophes ≤ 2 then .literalLines
  else if lines then .basicLines
  else .basic

/-- A number below 16 as a capital hexadecimal digit. -/
def hexDigit (n : Nat) : Char :=
  if n < 10 then Char.ofNat ('0'.toNat + n) else Char.ofNat ('A'.toNat + n - 10)

/-- A character of a basic string; quotes and line ends are seen to elsewhere. -/
def escapeChar (c : Char) : List Char :=
  if c = '\x08' then ['\\', 'b']
  else if c = '\t' then ['\\', 't']
  else if c = '\x0c' then ['\\', 'f']
  else if c = '\r' then ['\\', 'r']
  else if c = '\\' then ['\\', '\\']
  else if isPlain c then [c]
  else ['\\', 'u', '0', '0', hexDigit (c.toNat / 16), hexDigit (c.toNat % 16)]

/-- The body of a basic string on one line: every quote and line end is an escape. -/
def basicText (text : List Char) : List Char :=
  text.flatMap fun c =>
    if c = '"' then ['\\', '"'] else if c = '\n' then ['\\', 'n'] else escapeChar c

/-- The body of a basic string on several lines, `run` quotes after the last other character: the
third quote in a row is an escape, and the count begins again. -/
def linesText (run : Nat) : List Char → List Char
  | [] => []
  | c :: rest =>
    if c = '"' then
      if run < 2 then '"' :: linesText (run + 1) rest else '\\' :: '"' :: linesText 0 rest
    else if c = '\n' then '\n' :: linesText 0 rest
    else escapeChar c ++ linesText 0 rest

/-- Three of a quote, and a line end that does not count if the text has one. -/
def openLines (quote : Char) (text : List Char) : List Char :=
  [quote, quote, quote] ++ if text.contains '\n' then ['\n'] else []

/-- **A text in a form.** -/
def Form.write (form : Form) (text : List Char) : List Char :=
  match form with
  | basic => '"' :: basicText text ++ ['"']
  | literal => '\'' :: text ++ ['\'']
  | basicLines => openLines '"' text ++ linesText 0 text ++ ['"', '"', '"']
  | literalLines => openLines '\'' text ++ text ++ ['\'', '\'', '\'']

def writeString (text : List Char) : List Char := (Form.of text).write text

end PocketCalc.Toml
