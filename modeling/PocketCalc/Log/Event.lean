/-!
# Log events

An **event** is what a part of the program says has happened: a level, the part that speaks, and
named fields in the order in which they were recorded. The field `message` is the sentence; it may
stand anywhere among the others, or be missing. An **entry** is an event with its message taken out
of the fields.

**The law** (`Entry.ofEvent_of`): an event built from a message and fields gives an entry with that
message and those fields.
-/

namespace PocketCalc.Log

/-- **How much an event matters**, the gravest first. -/
inductive Level where
  | error
  | warn
  | info
  | debug
  | trace
  deriving DecidableEq, Repr, Inhabited

namespace Level

def all : List Level := [.error, .warn, .info, .debug, .trace]

def name : Level → String
  | error => "error"
  | warn => "warn"
  | info => "info"
  | debug => "debug"
  | trace => "trace"

def label : Level → String
  | error => "ERROR"
  | warn => "WARN"
  | info => "INFO"
  | debug => "DEBUG"
  | trace => "TRACE"

/-- The level of a name in settings. -/
def ofName? (s : String) : Option Level := all.find? (·.name = s)

/-- The level of a name in entries. -/
def ofLabel? (s : String) : Option Level := all.find? (·.label = s)

def depth : Level → Nat
  | error => 0
  | warn => 1
  | info => 2
  | debug => 3
  | trace => 4

def covers (threshold level : Level) : Bool := level.depth ≤ threshold.depth

end Level

/-- The name of the field that holds the sentence. -/
def messageField : String := "message"

/-- **What happened**, as it was recorded. -/
structure Event where
  level : Level
  /-- The part of the program that speaks. -/
  target : String
  /-- Names and values in recording order, the message among them. -/
  fields : List (String × String)
  deriving DecidableEq, Repr

/-- The usual event: the message first, then the other fields. -/
def Event.of (level : Level) (target message : String) (fields : List (String × String) := []) :
    Event :=
  ⟨level, target, (messageField, message) :: fields⟩

/-- **An event as it is kept**, with the message apart from the other fields. -/
structure Entry where
  level : Level
  target : String
  message : String
  /-- The other fields, in recording order. -/
  fields : List (String × String)
  deriving DecidableEq, Repr

namespace Entry

/-- The sentence of recorded fields: the last one recorded, or nothing. -/
def messageOf (fields : List (String × String)) : String :=
  fields.foldl (fun message field => if field.1 = messageField then field.2 else message) ""

def ofEvent (e : Event) : Entry :=
  ⟨e.level, e.target, messageOf e.fields, e.fields.filter (·.1 ≠ messageField)⟩

/-- The entry on one line: the message, then each field. -/
def text (e : Entry) : String :=
  e.fields.foldl (fun line field => line ++ " " ++ field.1 ++ "=" ++ field.2) e.message

/-- The last sentence wins, and fields with other names do not touch it. -/
theorem foldl_message_of_ne {fields : List (String × String)} (start : String)
    (h : ∀ field ∈ fields, field.1 ≠ messageField) :
    fields.foldl (fun message field => if field.1 = messageField then field.2 else message) start
      = start := by
  induction fields generalizing start with
  | nil => rfl
  | cons field rest ih =>
    rw [List.foldl_cons, if_neg (h field List.mem_cons_self)]
    exact ih start fun f hf => h f (List.mem_cons_of_mem _ hf)

theorem ofEvent_of {level : Level} {target message : String} {fields : List (String × String)}
    (h : ∀ field ∈ fields, field.1 ≠ messageField) :
    ofEvent (.of level target message fields) = ⟨level, target, message, fields⟩ := by
  simp only [ofEvent, Event.of, messageOf, List.foldl_cons, if_true, foldl_message_of_ne _ h,
    List.filter_cons, ne_eq, not_true_eq_false, decide_false, Bool.false_eq_true, if_false,
    Entry.mk.injEq, true_and]
  exact List.filter_eq_self.mpr fun field hf => by simpa using h field hf

end Entry

end PocketCalc.Log
