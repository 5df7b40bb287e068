import PocketCalc.Toml.Quoted
import PocketCalc.Toml.Scalar

/-!
# TOML documents

Lines of a document, and the table that they build. A line is empty, sets a key, or is a header; a
document is read as the list of its statements first, and then the statements build the table one
after the other, each key going into the table of the header above it.

**Nesting.** A value may lie inside `maxDepth` arrays or inline tables and no more, and a key has at
most as many parts, so that reading either is recursion on the depth that is left.
-/

namespace PocketCalc.Toml

/-! ## Between the words -/

def isSpace (c : Char) : Bool := c = ' ' || c = '\t'

def skipSpaces (text : List Char) : List Char := text.dropWhile isSpace

def skipComment : List Char → List Char
  | '#' :: rest => rest.dropWhile isPlain
  | text => text

/-- The text after the rest of a line that says nothing more. -/
def lineEnd (text : List Char) : Option (List Char) :=
  match skipComment (skipSpaces text) with
  | [] => some []
  | '\n' :: rest => some rest
  | '\r' :: '\n' :: rest => some rest
  | _ => none

/-- A text without the spaces, line ends and comments in front, which may stand between the items of
arrays and inline tables. -/
def skipFiller (inComment : Bool) : List Char → List Char
  | [] => []
  | '\n' :: rest => skipFiller false rest
  | '\r' :: '\n' :: rest => skipFiller false rest
  | c :: rest =>
    if inComment then if isPlain c then skipFiller true rest else c :: rest
    else if isSpace c then skipFiller false rest
    else if c = '#' then skipFiller true rest
    else c :: rest

/-- How deep values may be nested, and how many parts a key may have. -/
def maxDepth : Nat := 80

/-! ## Keys -/

def isBare (c : Char) : Bool := c.isAlphanum || c = '_' || c = '-'

def readKey (text : List Char) : Option (Key × List Char) :=
  match text with
  | '"' :: _ => readLineString text
  | '\'' :: _ => readLineString text
  | _ =>
    let key := text.takeWhile isBare
    if key.isEmpty then none else some (key, text.dropWhile isBare)

/-- Keys with dots between them, at most `fuel` of them, and the text after the spaces behind. -/
def readPath : Nat → List Char → Option (List Key × List Char)
  | 0, _ => none
  | fuel + 1, text => do
    let (key, rest) ← readKey (skipSpaces text)
    match skipSpaces rest with
    | '.' :: rest =>
      let (path, rest) ← readPath fuel rest
      some (key :: path, rest)
    | rest => some ([key], rest)

/-! ## Values -/

abbrev ItemReader (α : Type) := List Char → Option (α × List Char)

/-- Items up to a closing character, with commas between them and perhaps one after the last. -/
def readItems {α : Type} (item : ItemReader α) (closing : Char) :
    Nat → List Char → Option (List α × List Char)
  | 0, _ => none
  | fuel + 1, text => do
    match skipFiller false text with
    | [] => none
    | c :: rest =>
      if c = closing then some ([], rest)
      else
        let (first, after) ← item (c :: rest)
        match skipFiller false after with
        | [] => none
        | d :: after =>
          if d = closing then some ([first], after)
          else if d = ',' then
            let (others, after) ← readItems item closing fuel after
            some (first :: others, after)
          else none

/-- A key path and the value after the equals sign, with what `skip` passes over around that. -/
def readAssignment (skip : List Char → List Char) (value : ItemReader Value) :
    ItemReader (List Key × Value) := fun text => do
  let (path, rest) ← readPath maxDepth text
  match skip rest with
  | '=' :: rest =>
    let (v, rest) ← value (skip rest)
    some ((path, v), rest)
  | _ => none

/-- The table of the assignments between braces. -/
def sealedTable (assignments : List (List Key × Value)) : Option Value :=
  (assignments.foldlM (fun (t : Table) (a : List Key × Value) => t.assign a.2 a.1) []).map
    (.table .sealed)

/-- **A value**, with `depth` levels of nesting left. -/
def readValue : Nat → ItemReader Value
  | 0, text =>
    match text with
    | '"' :: _ => (readString text).map fun r => (.string r.1, r.2)
    | '\'' :: _ => (readString text).map fun r => (.string r.1, r.2)
    | _ => Scalar.read text
  | depth + 1, text =>
    match text with
    | '"' :: _ => (readString text).map fun r => (.string r.1, r.2)
    | '\'' :: _ => (readString text).map fun r => (.string r.1, r.2)
    | '[' :: rest =>
      (readItems (readValue depth) ']' text.length rest).map fun r => (.array r.1, r.2)
    | '\x7b' :: rest => do
      let (assignments, after) ←
        readItems (readAssignment (skipFiller false) (readValue depth)) '\x7d' text.length rest
      let v ← sealedTable assignments
      some (v, after)
    | _ => Scalar.read text

/-! ## Lines -/

/-- **What a line says.** -/
inductive Statement where
  /-- A header. -/
  | header (path : List Key)
  /-- A repeated header. -/
  | next (path : List Key)
  | assign (path : List Key) (v : Value)
  deriving Repr

/-- A header, after its first bracket. -/
def readHeader (text : List Char) : Option (Statement × List Char) :=
  match text with
  | '[' :: rest =>
    match readPath maxDepth rest with
    | some (path, ']' :: ']' :: rest) => some (.next path, rest)
    | _ => none
  | _ =>
    match readPath maxDepth text with
    | some (path, ']' :: rest) => some (.header path, rest)
    | _ => none

/-- What the front of a line says; nothing, where the line is empty but for a comment. -/
def readStatement (text : List Char) : Option (Option Statement × List Char) :=
  match skipSpaces text with
  | '[' :: rest => (readHeader rest).map fun r => (some r.1, r.2)
  | rest =>
    match lineEnd rest with
    | some _ => some (none, rest)
    | none =>
      (readAssignment skipSpaces (readValue maxDepth) rest).map fun r =>
        (some (.assign r.1.1 r.1.2), r.2)

/-- The statements of at most `fuel` lines. -/
def readLines : Nat → List Char → Option (List Statement)
  | _, [] => some []
  | 0, _ => none
  | fuel + 1, text => do
    let (statement, rest) ← readStatement text
    let after ← lineEnd rest
    let others ← readLines fuel after
    some (statement.toList ++ others)

/-- A text without the byte order mark that it may begin with. -/
def skipMark : List Char → List Char
  | c :: rest => if c.toNat = 0xfeff then rest else c :: rest
  | [] => []

/-- **The statements of a document.** -/
def readStatements (text : List Char) : Option (List Statement) :=
  let body := skipMark text
  readLines body.length body

/-! ## Building -/

/-- A document under construction: the table so far, and the header above the next line. -/
structure Builder where
  root : Table := []
  path : List Key := []
  deriving Repr

def Builder.add (b : Builder) : Statement → Option Builder
  | .header path => (Table.openTable path b.root).map fun root => ⟨root, path⟩
  | .next path => (Table.openNext path b.root).map fun root => ⟨root, path⟩
  | .assign path v =>
    (Table.within (Table.assign v path) b.path b.root).map fun root => ⟨root, b.path⟩

/-- **The table of a document**, if it is one. -/
def read? (text : List Char) : Option Table := do
  let statements ← readStatements text
  let built ← statements.foldlM Builder.add {}
  some built.root

end PocketCalc.Toml
