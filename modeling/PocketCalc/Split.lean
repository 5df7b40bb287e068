import PocketCalc.Decimal.Numeral
import PocketCalc.Log.Event
import PocketCalc.Token

/-!
# Splitting a buffer

The tokens of a buffer sorted into three lists, each in buffer order: the operands, the operators
and the runs that are no number. A run is read without the blanks around it, and a run that cannot
be read is kept as it stands; nothing is an error here.

**The law** (`Split.ofTokens_append`): the split of joined token lists is the join of the splits.
-/

namespace PocketCalc

/-- **The sorted tokens of a buffer.** -/
structure Split where
  operands : List Binary32 := []
  operators : List Operator := []
  /-- The runs that are no number. -/
  discarded : List (List Char) := []
  deriving DecidableEq, Repr

namespace Split

/-- The part of the log that splitting writes to. -/
def target : String := "calcpad_core::tokenizer"

def append (a b : Split) : Split :=
  ⟨a.operands ++ b.operands, a.operators ++ b.operators, a.discarded ++ b.discarded⟩

instance : Append Split := ⟨append⟩

def ofToken : Token → Split
  | .operator op => ⟨[], [op], []⟩
  | .run text =>
    match Binary32.read? (Text.trim text) with
    | some x => ⟨[x], [], []⟩
    | none => ⟨[], [], [text]⟩

/-- **The split of tokens.** -/
def ofTokens (tokens : List Token) : Split := tokens.foldr (ofToken · ++ ·) {}

/-- **The split of a buffer.** -/
def ofBuffer (buffer : List Char) : Split := ofTokens (Token.ofBuffer buffer)

/-- What splitting tells the log: each run that is no number, as it stands. -/
def events (s : Split) : List Log.Event :=
  s.discarded.map fun text =>
    .of .debug target "discarding malformed token" [("token", String.ofList text)]

theorem append_def (a b : Split) : a ++ b =
    ⟨a.operands ++ b.operands, a.operators ++ b.operators, a.discarded ++ b.discarded⟩ := rfl

theorem append_assoc (a b c : Split) : a ++ b ++ c = a ++ (b ++ c) := by simp [append_def]

theorem nil_append (a : Split) : ({} : Split) ++ a = a := rfl

theorem ofTokens_append (a b : List Token) : ofTokens (a ++ b) = ofTokens a ++ ofTokens b := by
  induction a with
  | nil => rw [List.nil_append]; exact (nil_append _).symm
  | cons token rest ih =>
    simp only [ofTokens, List.cons_append, List.foldr_cons] at ih ⊢
    rw [ih, append_assoc]

end Split

end PocketCalc
