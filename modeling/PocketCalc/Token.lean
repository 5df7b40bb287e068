import PocketCalc.Operator
import PocketCalc.Text.Blank

/-!
# Tokens

A buffer is cut at its operator symbols. What stands between two symbols is a **run**; blank runs
are dropped, the others are kept as they stand, blanks at their ends included.

**The law.** `render` is the other direction: it writes tokens back one after another. On token
lists without two neighbouring runs, whose runs are neither blank nor hold a symbol
(`Token.WellFormed`), cutting undoes writing.

**What it does not establish.** Whether a run is a number: see `Split`.
-/

namespace PocketCalc

/-- **A piece of a buffer**: a run of other characters, or an operator symbol. -/
inductive Token where
  | run (text : List Char)
  | operator (op : Operator)
  deriving DecidableEq, Repr

namespace Token

/-- A run as a token; a blank one is none. -/
def ofRun (text : List Char) : List Token := if Text.isBlankText text then [] else [.run text]

/-- The tokens of a run that has begun and of the characters after it. -/
def cut (begun : List Char) : List Char → List Token
  | [] => ofRun begun
  | c :: rest =>
    match Operator.ofSymbol? c with
    | some op => ofRun begun ++ .operator op :: cut [] rest
    | none => cut (begun ++ [c]) rest

/-- **The tokens of a buffer.** A buffer of fewer than two characters holds no operator with an
operand, and has none. -/
def ofBuffer (buffer : List Char) : List Token :=
  if buffer.length < 2 then [] else cut [] buffer

def chars : Token → List Char
  | run text => text
  | operator op => [op.symbol]

def render (tokens : List Token) : List Char := tokens.flatMap chars

/-- A run that cutting could have kept. -/
def IsRun (text : List Char) : Prop := ¬ Text.isBlankText text ∧ ∀ c ∈ text, ¬ Operator.isSymbol c

/-- **Token lists that cutting can answer**: no two runs are neighbours, and each run is one that
could have been kept. -/
def WellFormed : List Token → Prop
  | [] => True
  | .operator _ :: rest => WellFormed rest
  | [.run text] => IsRun text
  | .run text :: .operator _ :: rest => IsRun text ∧ WellFormed rest
  | .run _ :: .run _ :: _ => False

end Token

/-- The run that is being typed: what stands after the last operator symbol of a buffer. -/
def currentRun (buffer : List Char) : List Char :=
  (buffer.reverse.takeWhile fun c => !Operator.isSymbol c).reverse

end PocketCalc
