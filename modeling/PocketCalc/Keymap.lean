import PocketCalc.Keystroke

/-!
# The keyboard

What each key of the keyboard does. Keypad characters go to the calculator, and a few letters and
named keys drive the modifier keys and the log view.

**The jump.** The letter `g` waits for the next key: a second `g` goes to the oldest log entry, and
any other key does what it always does.
-/

namespace PocketCalc

inductive Key where
  | char (c : Char)
  | backspace
  | enter
  | left
  | right
  | up
  | down
  | home
  | last
  | pageUp
  | pageDown
  | tab
  | backTab
  | delete
  | insert
  | escape
  | null
  | function (n : Nat)
  /-- Any other key, by its name: a lock, a media key, a modifier by itself. -/
  | other (name : String)
  deriving DecidableEq, Repr, Inhabited

/-- **What a key does.** -/
inductive Action where
  | calculate (key : Keystroke)
  | quit
  | nextPanel
  | scrollDown
  | scrollUp
  | scrollToTop
  | scrollToBottom
  | nothing
  deriving DecidableEq, Repr, Inhabited

def Action.text : Action → String
  | calculate key => "Calc(" ++ key.text ++ ")"
  | quit => "Quit"
  | nextPanel => "NextPanel"
  | scrollDown => "ScrollDown"
  | scrollUp => "ScrollUp"
  | scrollToTop => "ScrollToTop"
  | scrollToBottom => "ScrollToBottom"
  | nothing => "None"

def Action.ofChar (c : Char) : Action :=
  match c with
  | 'q' => .quit
  | 'c' => .calculate .clear
  | 'n' => .calculate .toggleSign
  | 'j' => .scrollDown
  | 'k' => .scrollUp
  | 'G' => .scrollToBottom
  | _ =>
    match Keystroke.ofSymbol? c with
    | some key => .calculate key
    | none => .nothing

/-- What a key does by itself; the letter that begins a jump does nothing yet. -/
def Action.ofKey : Key → Action
  | .char c => .ofChar c
  | .tab => .nextPanel
  | .backTab => .nextPanel
  | .escape => .calculate .clear
  | .backspace => .calculate .delete
  | .delete => .calculate .delete
  | .down => .scrollDown
  | .up => .scrollUp
  | _ => .nothing

/-- **The keyboard's memory**: whether a jump has begun. -/
structure Keymap where
  jumping : Bool := false
  deriving DecidableEq, Repr, Inhabited

namespace Keymap

/-- The key of the jump. -/
def jumpKey : Key := .char 'g'

/-- **One key**: what it does, and what the keyboard remembers after it. -/
def resolve (m : Keymap) (key : Key) : Action × Keymap :=
  if key = jumpKey then
    if m.jumping then (.scrollToTop, ⟨false⟩) else (.nothing, ⟨true⟩)
  else (.ofKey key, ⟨false⟩)

def resolveAll (m : Keymap) : List Key → List Action
  | [] => []
  | key :: rest => (m.resolve key).1 :: (m.resolve key).2.resolveAll rest

end Keymap

end PocketCalc
