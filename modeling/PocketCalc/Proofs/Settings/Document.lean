import PocketCalc.Proofs.Toml.Document
import PocketCalc.Settings.Document

/-!
# Written settings are read back

The document of settings has eight statements, with an empty line before the second and the third of
its headers. They build three tables, and the fields of the tables are what was written.

**The law** (`read_write`): reading written settings gives the same settings, or their first fault.

**What it does not establish.** Documents that were not written from settings.
-/

namespace PocketCalc.Settings

open Toml (Lines Statement Table Value Written)

/-! ## The statements -/

/-- **What the document of settings says.** -/
def statements (s : Settings) : List Statement :=
  [.header ["display".toList],
    .assign ["error_marker".toList] (.string s.display.errorMarker.toList),
    .assign ["detailed_errors".toList] (.boolean s.display.detailedErrors),
    .header ["logging".toList],
    .assign ["level".toList] (.string s.logging.level.toList),
    .assign ["capacity".toList] (.integer s.logging.capacity.toNat),
    .header ["service".toList],
    .assign ["queue_capacity".toList] (.integer s.queue.capacity.toNat)]

theorem lines_header {name : String} (bare : name.toList.all Toml.isBare)
    (nonempty : name.toList ≠ []) {rest : List Char} {others : List Statement}
    (h : Lines rest others) :
    Lines (headerLine name ++ rest) (.header [name.toList] :: others) := by
  have hline : headerLine name ++ rest = ('[' :: name.toList ++ [']']) ++ '\n' :: rest := by
    simp [headerLine]
  have hread : Toml.readStatement (('[' :: name.toList ++ [']']) ++ '\n' :: rest) =
      some (some (.header [name.toList]), '\n' :: rest) := by
    obtain ⟨c, key, hname⟩ := List.exists_cons_of_ne_nil nonempty
    rw [hname] at bare ⊢
    simpa using Toml.readStatement_header (List.all_eq_true.mp bare) rest
  rw [hline]
  exact .line hread h

theorem lines_line {key : String} (bare : key.toList.all Toml.isBare)
    (nonempty : key.toList ≠ []) {text : List Char} {v : Value} (value : Written text v)
    {rest : List Char} {others : List Statement} (h : Lines rest others) :
    Lines (line key text ++ rest) (.assign [key.toList] v :: others) := by
  have hline : line key text ++ rest =
      (key.toList ++ ' ' :: '=' :: ' ' :: text) ++ '\n' :: rest := by
    simp [line]
  have hread : Toml.readStatement ((key.toList ++ ' ' :: '=' :: ' ' :: text) ++ '\n' :: rest) =
      some (some (.assign [key.toList] v), '\n' :: rest) := by
    obtain ⟨c, name, hkey⟩ := List.exists_cons_of_ne_nil nonempty
    rw [hkey] at bare ⊢
    simpa using Toml.readStatement_assign (List.all_eq_true.mp bare) value rest
  rw [hline]
  exact .line hread h

theorem lines_empty {rest : List Char} {others : List Statement} (h : Lines rest others) :
    Lines ('\n' :: rest) others := by
  show Lines ([] ++ '\n' :: rest) ((none : Option Statement).toList ++ others)
  exact .line rfl h

theorem written_capacity (n : UInt64) : Written (number n) (.integer n.toNat) :=
  Toml.written_number (Nat.lt_trans n.toNat_lt (by decide))

/-- **The document of settings says what it should.** -/
theorem lines_write (s : Settings) : Lines s.write s.statements := by
  have hwrite : s.write =
      headerLine "display" ++
        (line "error_marker" (Toml.writeString s.display.errorMarker.toList) ++
        (line "detailed_errors" (if s.display.detailedErrors then "true" else "false").toList ++
        '\n' :: (headerLine "logging" ++
        (line "level" (Toml.writeString s.logging.level.toList) ++
        (line "capacity" (number s.logging.capacity) ++
        '\n' :: (headerLine "service" ++
        (line "queue_capacity" (number s.queue.capacity) ++ []))))))) := by
    simp [write]
  rw [hwrite, statements]
  refine lines_header (by decide) (by decide) ?_
  refine lines_line (by decide) (by decide) (Toml.written_string _) ?_
  refine lines_line (by decide) (by decide) (Toml.written_boolean _) (lines_empty ?_)
  refine lines_header (by decide) (by decide) ?_
  refine lines_line (by decide) (by decide) (Toml.written_string _) ?_
  refine lines_line (by decide) (by decide) (written_capacity _) (lines_empty ?_)
  refine lines_header (by decide) (by decide) ?_
  exact lines_line (by decide) (by decide) (written_capacity _) .none

/-! ## The tables -/

/-- The table of the display settings. -/
def Display.toValue (d : Display) : Value :=
  .table .opened [("error_marker".toList, .string d.errorMarker.toList),
    ("detailed_errors".toList, .boolean d.detailedErrors)]

def Logging.toValue (l : Logging) : Value :=
  .table .opened [("level".toList, .string l.level.toList),
    ("capacity".toList, .integer l.capacity.toNat)]

def Queue.toValue (q : Queue) : Value :=
  .table .opened [("queue_capacity".toList, .integer q.capacity.toNat)]

/-- **The table that the document of settings builds.** -/
def toTable (s : Settings) : Table :=
  [("display".toList, s.display.toValue), ("logging".toList, s.logging.toValue),
    ("service".toList, s.queue.toValue)]

theorem build_statements (s : Settings) :
    s.statements.foldlM Toml.Builder.add {} = some ⟨s.toTable, ["service".toList]⟩ := by
  rfl

theorem toml_read?_write (s : Settings) : Toml.read? s.write = some s.toTable := by
  have hmark : ∀ first ∈ s.write.head?, first.toNat ≠ 0xfeff := by
    intro first hfirst
    obtain rfl : '[' = first := Option.some.inj hfirst
    decide
  simp only [Toml.read?, s.lines_write.readStatements hmark, Option.bind_eq_bind, Option.bind_some,
    build_statements]

/-! ## The fields -/

theorem capacity?_toNat (n : UInt64) : capacity? (.integer n.toNat) = some n := by
  have hlt := n.toNat_lt
  rw [capacity?, if_pos (by omega)]
  simp

theorem Display.ofValue?_toValue (d : Display) : ofValue? d.toValue = some d := by
  have hmarker : fieldOr string? ({} : Display).errorMarker d.toValue "error_marker" 0 =
      some (String.ofList d.errorMarker.toList) := rfl
  have hdetailed : fieldOr boolean? ({} : Display).detailedErrors d.toValue "detailed_errors" 1 =
      some d.detailedErrors := rfl
  have hothers : othersReadable d.toValue ["error_marker", "detailed_errors"] = true := rfl
  simp only [ofValue?, hmarker, hdetailed, hothers, if_true, Option.bind_eq_bind, Option.bind_some,
    String.ofList_toList]

theorem Logging.ofValue?_toValue (l : Logging) : ofValue? l.toValue = some l := by
  have hlevel : fieldOr string? ({} : Logging).level l.toValue "level" 0 =
      some (String.ofList l.level.toList) := rfl
  have hcapacity : fieldOr capacity? ({} : Logging).capacity l.toValue "capacity" 1 =
      capacity? (.integer l.capacity.toNat) := rfl
  have hothers : othersReadable l.toValue ["level", "capacity"] = true := rfl
  simp only [ofValue?, hlevel, hcapacity, capacity?_toNat, hothers, if_true, Option.bind_eq_bind,
    Option.bind_some, String.ofList_toList]

theorem Queue.ofValue?_toValue (q : Queue) : ofValue? q.toValue = some q := by
  have hcapacity : fieldOr capacity? ({} : Queue).capacity q.toValue "queue_capacity" 0 =
      capacity? (.integer q.capacity.toNat) := rfl
  have hothers : othersReadable q.toValue ["queue_capacity"] = true := rfl
  simp only [ofValue?, hcapacity, capacity?_toNat, hothers, if_true, Option.bind_eq_bind,
    Option.bind_some]

theorem ofTable?_toTable (s : Settings) : ofTable? s.toTable = some s := by
  have hdisplay : fieldOr Display.ofValue? {} (.table .opened s.toTable) "display" 0 =
      Display.ofValue? s.display.toValue := rfl
  have hlogging : fieldOr Logging.ofValue? {} (.table .opened s.toTable) "logging" 1 =
      Logging.ofValue? s.logging.toValue := rfl
  have hqueue : fieldOr Queue.ofValue? {} (.table .opened s.toTable) "service" 2 =
      Queue.ofValue? s.queue.toValue := rfl
  have hothers : othersReadable (.table .opened s.toTable) ["display", "logging", "service"] =
      true := rfl
  simp only [ofTable?, hdisplay, hlogging, hqueue, Display.ofValue?_toValue,
    Logging.ofValue?_toValue, Queue.ofValue?_toValue, hothers, if_true, Option.bind_eq_bind,
    Option.bind_some]

/-! ## Round trip -/

/-- **Reading written settings is checking them.** Settings without a fault are read back as they
are, and others are refused with their first fault; the document itself is always one of
settings. -/
theorem read_write (s : Settings) :
    (read s.write =
      match s.fault? with
      | none => .ok s
      | some fault => .error (.invalid fault)) ∧
      read s.write ≠ .error .malformed := by
  have hread : read s.write = s.checked := by
    rw [read, s.toml_read?_write, Option.bind_some, s.ofTable?_toTable]
  rw [hread, checked]
  cases s.fault? with
  | none => exact ⟨rfl, by simp⟩
  | some fault => exact ⟨rfl, by simp⟩

/-- A marker that needs escapes, a level between quotes of another kind, and a capacity past the
range of signed numbers. -/
example :
    let display : Display := { errorMarker := "\"\"\"'''\n\\\x1b", detailedErrors := true }
    let s : Settings := { display, logging := { level := "a\"b", capacity := 0xffffffffffffffff } }
    read s.write = .error (.invalid (.unknownLevel "a\"b")) := by
  decide +kernel

end PocketCalc.Settings
