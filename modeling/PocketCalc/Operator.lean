/-!
# Operators

The five operator symbols of the keypad. In a buffer they are what separates the operands.
-/

namespace PocketCalc

inductive Operator where
  | add
  | subtract
  | multiply
  | divide
  | percent
  deriving DecidableEq, Repr, Inhabited

namespace Operator

/-- Every operator, in the order of the keypad's symbol table. -/
def all : List Operator := [.add, .subtract, .multiply, .divide, .percent]

def symbol : Operator → Char
  | add => '+'
  | subtract => '-'
  | multiply => '*'
  | divide => '/'
  | percent => '%'

def name : Operator → String
  | add => "Add"
  | subtract => "Subtract"
  | multiply => "Multiply"
  | divide => "Divide"
  | percent => "Percent"

def ofSymbol? (c : Char) : Option Operator := all.find? (·.symbol = c)

def ofName? (s : String) : Option Operator := all.find? (·.name = s)

def symbols : List Char := all.map symbol

/-- A character that separates operands. -/
def isSymbol (c : Char) : Bool := symbols.contains c

theorem mem_all (op : Operator) : op ∈ all := by cases op <;> decide

/-- Reading a symbol finds its operator and no other. -/
theorem ofSymbol?_eq_some_iff {c : Char} {op : Operator} :
    ofSymbol? c = some op ↔ c = op.symbol := by
  constructor
  · intro h
    have := List.find?_some h
    simpa using (of_decide_eq_true this).symm
  · rintro rfl
    cases op <;> rfl

/-- A character is a symbol exactly when it has an operator. -/
theorem isSymbol_iff {c : Char} : isSymbol c ↔ ∃ op, ofSymbol? c = some op := by
  simp only [isSymbol, symbols, List.contains_eq_mem, List.mem_map, decide_eq_true_eq,
    ofSymbol?_eq_some_iff]
  exact ⟨fun ⟨op, _, h⟩ => ⟨op, h.symm⟩, fun ⟨op, h⟩ => ⟨op, mem_all op, h.symm⟩⟩

end Operator

end PocketCalc
