import Mathlib.Data.List.DropRight
import PocketCalc.Log.Collector

/-!
# The newest entries

A collector makes room in a loop: while it holds as many entries as it may, the oldest goes
(`Collector.Evicts`). The loop ends if there is room for one entry at all, and at a capacity of zero
it would not (`Collector.evicts_iff`); a collector counts a capacity of zero as one.

**The law** (`Collector.keeps_newest`): what a collector holds are the entries of the newest events
that mattered enough, as many as there is room for, in the order of the events.

**What it does not establish.** When an event happened: entries have no time.
-/

namespace PocketCalc.Log

/-! ## Entries -/

namespace Entry

/-- **The sentence of fields** is the last one recorded. -/
theorem messageOf_eq (fields : List (String × String)) :
    messageOf fields = ((fields.filter (·.1 = messageField)).map Prod.snd).getLastD "" := by
  induction fields using List.reverseRecOn with
  | nil => rfl
  | append_singleton front field ih =>
    rw [messageOf, List.foldl_append, List.filter_append, List.map_append]
    by_cases message : field.1 = messageField
    · rw [List.filter_cons_of_pos (by simpa using message), List.getLastD_eq_getLast?]
      simp [message]
    · rw [List.filter_cons_of_neg (by simpa using message), List.filter_nil, List.map_nil,
        List.append_nil, ← ih]
      exact if_neg message

/-- **The sentence may stand anywhere** among the fields. -/
theorem ofEvent_message (level : Level) (target : String) {before after : List (String × String)}
    (text : String) (others : ∀ field ∈ before ++ after, field.1 ≠ messageField) :
    ofEvent ⟨level, target, before ++ (messageField, text) :: after⟩ =
      ⟨level, target, text, before ++ after⟩ := by
  have hbefore : ∀ field ∈ before, field.1 ≠ messageField := fun field hfield =>
    others field (List.mem_append_left _ hfield)
  have hafter : ∀ field ∈ after, field.1 ≠ messageField := fun field hfield =>
    others field (List.mem_append_right _ hfield)
  have hmessage : messageOf (before ++ (messageField, text) :: after) = text := by
    rw [messageOf, List.foldl_append, List.foldl_cons, if_pos rfl, foldl_message_of_ne _ hafter]
  have hfields : (before ++ (messageField, text) :: after).filter (·.1 ≠ messageField) =
      before ++ after := by
    rw [List.filter_append, List.filter_cons_of_neg (by simp), ← List.filter_append]
    exact List.filter_eq_self.mpr fun field hfield => by simpa using others field hfield
  rw [ofEvent, hmessage, hfields]

end Entry

namespace Collector

/-! ## Making room -/

/-- **The loop that makes room** for one entry: while there are as many entries as the capacity
allows, the oldest goes. -/
inductive Evicts (capacity : Nat) : List Entry → List Entry → Prop where
  | stop {entries : List Entry} : entries.length < capacity → Evicts capacity entries entries
  | evict {entries kept : List Entry} : capacity ≤ entries.length →
      Evicts capacity entries.tail kept → Evicts capacity entries kept

/-- **The loop ends exactly if the capacity is not zero**, and has dropped the entries past it. -/
theorem evicts_iff {capacity : Nat} {entries kept : List Entry} :
    Evicts capacity entries kept ↔
      0 < capacity ∧ kept = entries.drop (entries.length + 1 - capacity) := by
  constructor
  · intro h
    induction h with
    | stop room =>
      rw [Nat.sub_eq_zero_of_le room]
      exact ⟨Nat.zero_lt_of_lt room, rfl⟩
    | @evict entries kept full _ ih =>
      obtain ⟨hpos, rfl⟩ := ih
      refine ⟨hpos, ?_⟩
      rw [List.drop_tail, List.length_tail]
      congr 1
      omega
  · rintro ⟨hpos, rfl⟩
    induction entries with
    | nil => rw [List.drop_nil]; exact .stop hpos
    | cons entry rest ih =>
      by_cases room : (entry :: rest).length < capacity
      · rw [Nat.sub_eq_zero_of_le room]
        exact .stop room
      · have full : capacity ≤ (entry :: rest).length := Nat.le_of_not_lt room
        have hdrop : (entry :: rest).length + 1 - capacity = (rest.length + 1 - capacity) + 1 := by
          rw [List.length_cons] at full ⊢
          omega
        rw [hdrop, List.drop_succ_cons]
        exact .evict full ih

/-- Keeping an entry is making room for it, and putting it behind the others. -/
theorem push_evicts (c : Collector) (entry : Entry) :
    ∃ kept, Evicts c.capacity c.entries kept ∧ (c.push entry).entries = kept ++ [entry] := by
  refine ⟨_, evicts_iff.mpr ⟨c.capacity_pos, rfl⟩, ?_⟩
  have hpos := c.capacity_pos
  exact List.drop_append_of_le_length (by omega)

/-! ## What is kept -/

theorem entries_push (c : Collector) (entry : Entry) :
    (c.push entry).entries = (c.entries ++ [entry]).rtake c.capacity := by
  rw [List.rtake, List.length_append, List.length_singleton]
  rfl

/-- What is dropped early would be dropped later. -/
theorem rtake_rtake_append {α : Type} (old new : List α) (n : Nat) :
    (old.rtake n ++ new).rtake n = (old ++ new).rtake n := by
  simp only [List.rtake, List.length_append, List.length_drop, List.drop_append, List.drop_drop]
  congr 2 <;> omega

/-- **Recorded events push out the oldest entries**, and nothing else. -/
theorem entries_recordAll {c : Collector} (within : c.size ≤ c.capacity) (events : List Event) :
    (c.recordAll events).capacity = c.capacity ∧
      (c.recordAll events).entries =
        (c.entries ++ (events.filter fun e => c.threshold.covers e.level).map Entry.ofEvent).rtake
          c.capacity := by
  induction events generalizing c with
  | nil =>
    refine ⟨rfl, ?_⟩
    have hnone : c.entries.length - c.capacity = 0 := Nat.sub_eq_zero_of_le within
    rw [List.filter_nil, List.map_nil, List.append_nil, List.rtake, hnone]
    rfl
  | cons event rest ih =>
    rw [recordAll, List.foldl_cons, record, List.filter_cons]
    by_cases heard : c.threshold.covers event.level
    · rw [if_pos heard, if_pos heard, List.map_cons, List.append_cons, ← rtake_rtake_append,
        ← entries_push]
      exact ih (length_push_le _)
    · rw [if_neg heard, if_neg heard]
      exact ih within

/-- **A collector keeps exactly the newest entries.** After any events, a collector that began empty
holds the entries of the last of those that its threshold covers, oldest first: all of them, or as
many as the capacity says, and one if it says zero. Its size and its emptiness are those of what it
holds, and the threshold `trace` covers everything. Room for one more entry is made by a loop that
ends. And an entry has the level, the part that speaks and the other fields of its event in their
order, with the last sentence recorded for its message, or none; so one sentence may stand anywhere
among the fields. -/
theorem keeps_newest (threshold : Level) (capacity : Nat) (events : List Event) :
    let c := (Collector.new threshold capacity).recordAll events
    let heard := events.filter fun e => threshold.covers e.level
    c.entries = (heard.rtake (max capacity 1)).map Entry.ofEvent ∧
      c.entries.length = min heard.length (max capacity 1) ∧
      c.size = c.entries.length ∧ (c.isEmpty ↔ c.entries = []) ∧
      (events.filter fun e => Level.trace.covers e.level) = events ∧
      (∀ entry, ∃ kept, Evicts (max capacity 1) c.entries kept ∧
        (c.push entry).entries = kept ++ [entry]) ∧
      (∀ e : Event, Entry.ofEvent e = ⟨e.level, e.target,
        ((e.fields.filter (·.1 = "message")).map Prod.snd).getLastD "",
        e.fields.filter (·.1 ≠ "message")⟩) ∧
      ∀ level target before text after, (∀ field ∈ before ++ after, field.1 ≠ "message") →
        Entry.ofEvent ⟨level, target, before ++ ("message", text) :: after⟩ =
          ⟨level, target, text, before ++ after⟩ := by
  intro c heard
  obtain ⟨hcapacity, hentries⟩ :=
    entries_recordAll (c := .new threshold capacity) (Nat.zero_le _) events
  have hnewest : c.entries = (heard.rtake (max capacity 1)).map Entry.ofEvent := by
    refine hentries.trans ?_
    show (heard.map Entry.ofEvent).rtake (max capacity 1) = _
    rw [List.rtake, List.rtake, List.length_map, List.map_drop]
  refine ⟨hnewest, ?_, rfl, ?_, ?_, ?_, ?_, ?_⟩
  · rw [hnewest, List.length_map, List.rtake, List.length_drop]
    omega
  · rw [isEmpty, decide_eq_true_iff, size, List.length_eq_zero_iff]
  · exact List.filter_eq_self.mpr fun e _ => by cases e.level <;> rfl
  · intro entry
    have hpush := c.push_evicts entry
    rwa [hcapacity] at hpush
  · intro e
    rw [Entry.ofEvent, Entry.messageOf_eq]
    rfl
  · intro level target before text after others
    exact Entry.ofEvent_message level target text others

/-- A capacity of zero keeps one entry, the newest, whose sentence stands between its fields. -/
theorem keeps_newest_one :
    let before := [("first", "1")]
    let after := [("last", "2")]
    let events : List Event := [.of .info "oracle" "one",
      ⟨.warn, "oracle", before ++ ("message", "two") :: after⟩, .of .debug "oracle" "three"]
    (∀ field ∈ before ++ after, field.1 ≠ "message") ∧
      ((Collector.new .info 0).recordAll events).entries =
        [⟨.warn, "oracle", "two", before ++ after⟩] ∧
      ((Collector.new .trace 0).recordAll events).entries = [⟨.debug, "oracle", "three", []⟩] := by
  intro before after events
  have others : ∀ field ∈ before ++ after, field.1 ≠ "message" := by decide
  refine ⟨others, ?_, ?_⟩
  · rw [(keeps_newest .info 0 events).1]
    exact congrArg (· :: []) ((keeps_newest .info 0 events).2.2.2.2.2.2.2 _ _ _ _ _ others)
  · rw [(keeps_newest .trace 0 events).1]
    rfl

end Collector

end PocketCalc.Log
