import PocketCalc.Decimal.Numeral

/-!
# TOML values and tables

A table is a list of keys with values, in the order in which they were set. How a table came about
decides what may be added to it later, and so it is kept with the table: a table is **sealed** when
it was written between braces, **dotted** when a key with dots made it, **implied** when the header
of a table inside it made it, and **opened** by a header of its own.

**What may be added.** A header opens a table once, and only where nothing or an implied table
stands. A key with dots goes through dotted and implied tables, which are dotted from then on, and
through the newest of repeated tables on the way to one of those. Nothing is added to a sealed
table, and no key is set twice.

**Numbers without a value.** A number may be written well and still have no value that can be held.
A document with such a number is a document; the number is a fault only for who reads it.
-/

namespace PocketCalc.Toml

/-- **How a table came about.** -/
inductive Origin where
  | sealed
  | dotted
  | implied
  | opened
  deriving DecidableEq, Repr

abbrev Key := List Char

inductive Value where
  | string (text : List Char)
  | integer (n : Int)
  | float (number : Numeral)
  /-- A number that has no value. -/
  | unreadable (word : List Char)
  | boolean (b : Bool)
  | instant (text : List Char)
  | array (items : List Value)
  | table (origin : Origin) (entries : List (Key × Value))
  /-- The tables of repeated headers, the newest last. -/
  | tables (items : List (List (Key × Value)))
  deriving Repr, Inhabited

mutual

/-- **Whether a value can be read**, with all that is in it. -/
def Value.isReadable : Value → Bool
  | .unreadable _ => false
  | .array items => Value.areReadable items
  | .table _ entries => Value.entriesAreReadable entries
  | .tables items => Value.tablesAreReadable items
  | _ => true

/-- Whether each of several values can be read. -/
def Value.areReadable : List Value → Bool
  | [] => true
  | v :: rest => v.isReadable && Value.areReadable rest

/-- Whether the value of a key can be read. -/
def Value.entryIsReadable : Key × Value → Bool
  | (_, v) => v.isReadable

/-- Whether the value of each key of a table can be read. -/
def Value.entriesAreReadable : List (Key × Value) → Bool
  | [] => true
  | entry :: rest => Value.entryIsReadable entry && Value.entriesAreReadable rest

/-- Whether each of several tables can be read. -/
def Value.tablesAreReadable : List (List (Key × Value)) → Bool
  | [] => true
  | entries :: rest => Value.entriesAreReadable entries && Value.tablesAreReadable rest

end

/-- A table without its origin. -/
abbrev Table := List (Key × Value)

namespace Table

def find? (t : Table) (key : Key) : Option Value := t.lookup key

def add (t : Table) (key : Key) (v : Value) : Table := t ++ [(key, v)]

def replace (t : Table) (key : Key) (v : Value) : Table :=
  t.map fun entry => if entry.1 = key then (key, v) else entry

def onLast (f : Table → Option Table) : List Table → Option (List Table)
  | [] => none
  | [t] => (f t).map ([·])
  | t :: u :: rest => (onLast f (u :: rest)).map (t :: ·)

/-- **Setting a key**, which may have dots. -/
def assign (v : Value) : List Key → Table → Option Table
  | [], _ => none
  | [key], t =>
    match t.find? key with
    | none => some (t.add key v)
    | some _ => none
  | key :: next :: path, t =>
    match t.find? key with
    | none => (assign v (next :: path) []).map fun inner => t.add key (.table .dotted inner)
    | some (.table origin inner) =>
      if origin = .dotted ∨ origin = .implied then
        (assign v (next :: path) inner).map fun inner => t.replace key (.table .dotted inner)
      else none
    | some (.tables items) =>
      if path.isEmpty then none
      else (onLast (assign v (next :: path)) items).map fun items => t.replace key (.tables items)
    | some _ => none

/-- **A header**: opens the table at a path, making the tables on the way that are not there. -/
def openTable : List Key → Table → Option Table
  | [], _ => none
  | [key], t =>
    match t.find? key with
    | none => some (t.add key (.table .opened []))
    | some (.table .implied inner) => some (t.replace key (.table .opened inner))
    | some _ => none
  | key :: next :: path, t =>
    match t.find? key with
    | none => (openTable (next :: path) []).map fun inner => t.add key (.table .implied inner)
    | some (.table origin inner) =>
      if origin = .sealed then none
      else (openTable (next :: path) inner).map fun inner => t.replace key (.table origin inner)
    | some (.tables items) =>
      (onLast (openTable (next :: path)) items).map fun items => t.replace key (.tables items)
    | some _ => none

/-- **A repeated header**: one more table at the end of the list of tables at a path. -/
def openNext : List Key → Table → Option Table
  | [], _ => none
  | [key], t =>
    match t.find? key with
    | none => some (t.add key (.tables [[]]))
    | some (.tables items) => some (t.replace key (.tables (items ++ [[]])))
    | some _ => none
  | key :: next :: path, t =>
    match t.find? key with
    | none => (openNext (next :: path) []).map fun inner => t.add key (.table .implied inner)
    | some (.table origin inner) =>
      if origin = .sealed then none
      else (openNext (next :: path) inner).map fun inner => t.replace key (.table origin inner)
    | some (.tables items) =>
      (onLast (openNext (next :: path)) items).map fun items => t.replace key (.tables items)
    | some _ => none

/-- A change to the table that the header of a path has opened. -/
def within (f : Table → Option Table) : List Key → Table → Option Table
  | [], t => f t
  | key :: path, t =>
    match t.find? key with
    | some (.table origin inner) =>
      (within f path inner).map fun inner => t.replace key (.table origin inner)
    | some (.tables items) =>
      (onLast (within f path) items).map fun items => t.replace key (.tables items)
    | _ => none

end Table

end PocketCalc.Toml
