import PocketCalc.Settings.Basic
import PocketCalc.Toml.Document

/-!
# Settings as a document

Settings are written as a TOML document of three tables, and read from any document that holds
them. What a document leaves out has its default, and what it holds besides is passed over, but for
a number without a value, which makes the document malformed. A table may be given as an array of
its values in their order, and nothing in it is looked at after them; a point in time in place of a
table is a table without values.

**The law** that the written form is made for: reading written settings gives the same settings
back, or the fault that they have.
-/

namespace PocketCalc.Settings

open Toml (Value Table)

/-! ## Reading -/

/-- **Why a document holds no settings.** -/
inductive ReadError where
  /-- It is no document, or a setting in it has the wrong kind of value. -/
  | malformed
  | invalid (fault : Fault)
  deriving DecidableEq, Repr

/-- The value for a field of a table: by its name, or by its place where the table is an array. The
outer option is empty if the value can be no table at all. -/
def field? (v : Value) (name : String) (place : Nat) : Option (Option Value) :=
  match v with
  | .table _ entries => some (Table.find? entries name.toList)
  | .array items => some items[place]?
  | .tables items => some (items[place]?.map (.table .opened))
  | .instant _ => some none
  | _ => none

/-- A field of a table, or its default where it has none. -/
def fieldOr {α : Type} (read : Value → Option α) (default : α) (v : Value) (name : String)
    (place : Nat) : Option α :=
  match field? v name place with
  | none => none
  | some none => some default
  | some (some v) => read v

/-- Whether the fields of a table that have none of the names can be passed over. -/
def othersReadable (v : Value) (names : List String) : Bool :=
  match v with
  | .table _ entries =>
    entries.all fun entry => names.contains (String.ofList entry.1) || entry.2.isReadable
  | _ => true

def string? : Value → Option String
  | .string text => some (String.ofList text)
  | _ => none

def boolean? : Value → Option Bool
  | .boolean b => some b
  | _ => none

def capacity? : Value → Option UInt64
  | .integer n => if 0 ≤ n ∧ n < 2 ^ 64 then some (.ofNat n.toNat) else none
  | _ => none

def Display.ofValue? (v : Value) : Option Display := do
  let errorMarker ← fieldOr string? ({} : Display).errorMarker v "error_marker" 0
  let detailedErrors ← fieldOr boolean? ({} : Display).detailedErrors v "detailed_errors" 1
  if othersReadable v ["error_marker", "detailed_errors"] then some { errorMarker, detailedErrors }
  else none

def Logging.ofValue? (v : Value) : Option Logging := do
  let level ← fieldOr string? ({} : Logging).level v "level" 0
  let capacity ← fieldOr capacity? ({} : Logging).capacity v "capacity" 1
  if othersReadable v ["level", "capacity"] then some { level, capacity } else none

def Queue.ofValue? (v : Value) : Option Queue := do
  let capacity ← fieldOr capacity? ({} : Queue).capacity v "queue_capacity" 0
  if othersReadable v ["queue_capacity"] then some { capacity } else none

/-- The settings of a table, unchecked. -/
def ofTable? (t : Table) : Option Settings := do
  let root : Value := .table .opened t
  let display ← fieldOr Display.ofValue? {} root "display" 0
  let logging ← fieldOr Logging.ofValue? {} root "logging" 1
  let queue ← fieldOr Queue.ofValue? {} root "service" 2
  if othersReadable root ["display", "logging", "service"] then some { display, logging, queue }
  else none

/-- Settings without a fault. -/
def checked (s : Settings) : Except ReadError Settings :=
  match s.fault? with
  | none => .ok s
  | some fault => .error (.invalid fault)

/-- **The settings of a document.** -/
def read (text : List Char) : Except ReadError Settings :=
  match (Toml.read? text).bind ofTable? with
  | none => .error .malformed
  | some s => s.checked

/-! ## Writing -/

def line (key : String) (value : List Char) : List Char :=
  key.toList ++ " = ".toList ++ value ++ ['\n']

def headerLine (name : String) : List Char := '[' :: name.toList ++ [']', '\n']

def number (n : UInt64) : List Char := Nat.toDigits 10 n.toNat

/-- **The document of settings.** -/
def write (s : Settings) : List Char :=
  headerLine "display"
    ++ line "error_marker" (Toml.writeString s.display.errorMarker.toList)
    ++ line "detailed_errors" (if s.display.detailedErrors then "true" else "false").toList
    ++ '\n' :: headerLine "logging"
    ++ line "level" (Toml.writeString s.logging.level.toList)
    ++ line "capacity" (number s.logging.capacity)
    ++ '\n' :: headerLine "service"
    ++ line "queue_capacity" (number s.queue.capacity)

end PocketCalc.Settings
