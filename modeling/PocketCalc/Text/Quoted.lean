import PocketCalc.Text.Visible

/-!
# Quoted text

Texts between quotes, for messages and log fields: every hidden character is written as an escape,
and so is the quote in use and the backslash.

**The rule.** Five characters have short escapes; any other hidden one is written as its code point
in hexadecimal between braces, without leading zeros.
-/

namespace PocketCalc.Text

/-- A hidden character by its code point. -/
def codePointEscape (c : Char) : List Char :=
  "\\u\x7b".toList ++ Nat.toDigits 16 c.toNat ++ ['\x7d']

/-- **One character between quotes of the kind `quote`.** -/
def escape (quote : Char) (c : Char) : List Char :=
  if c = '\x00' then "\\0".toList
  else if c = '\t' then "\\t".toList
  else if c = '\n' then "\\n".toList
  else if c = '\r' then "\\r".toList
  else if c = '\\' ∨ c = quote then ['\\', c]
  else if isVisible c then [c]
  else codePointEscape c

/-- A character between single quotes. -/
def quoteChar (c : Char) : String := String.ofList ('\'' :: escape '\'' c ++ ['\''])

/-- A text between double quotes. -/
def quoteString (text : List Char) : String :=
  String.ofList ('"' :: text.flatMap (escape '"') ++ ['"'])

/-- Values between brackets, a comma and a space between two. -/
def bracketed (values : List String) : String := "[" ++ ", ".intercalate values ++ "]"

end PocketCalc.Text
