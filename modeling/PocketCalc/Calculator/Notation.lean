import PocketCalc.Calculator.Basic
import PocketCalc.Text.Blank

/-!
# Typed notation

A sequence of keystrokes written as a text: the keypad's own characters, a capital letter for each
key that has none, and blanks anywhere, which mean nothing.
-/

namespace PocketCalc

/-- **The keystrokes of a text**, or the first character that stands for none. -/
def Keystroke.ofText : List Char → Except Char (List Keystroke)
  | [] => .ok []
  | c :: rest =>
    if Text.isBlank c then ofText rest
    else
      match Keystroke.ofNotation? c with
      | none => .error c
      | some key => (ofText rest).map (key :: ·)

/-- What is wrong with a character that stands for no keystroke. -/
def Keystroke.unknownMessage (c : Char) : String := "no keypad event for " ++ Text.quoteChar c

end PocketCalc
