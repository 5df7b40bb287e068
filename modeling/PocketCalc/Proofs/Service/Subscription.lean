import PocketCalc.Proofs.Service.Order
import PocketCalc.Proofs.Service.Stream

/-!
# What a subscriber sees

A subscription is watched through a schedule (`Watch`): what its readings gave is kept beside the
moment the schedule has come to. Each reading stands for some updates (`Received.slots`): an update
for itself, a lag for as many as it says, and nothing else for any.

A subscription is **in step** (`Watch.InStep`) when its cursor stands behind as many updates as its
readings stand for, and these are the updates of the keystrokes that were handled since it was
taken, one after another, but for those that were lost.

**The law** (`Watch.InStep.next`, `Watch.InStep.run`): every move and every schedule keeps a
subscription in step. With that, what the next reading gives is settled by how many updates are
unread (`InOrder.receive_eq`).

**What it does not establish.** That anybody reads: a subscription that is not read loses all but
the newest updates.
-/

namespace PocketCalc.Service

variable {s : Service} {i cursor : Nat}

/-! ## Cursors -/

theorem receive_of_cursor (h : s.cursors[i]? = some cursor) :
    s.receive i = (.of s.mayPublish (s.stream.receive cursor).1,
      { s with cursors := s.cursors.set i (s.stream.receive cursor).2 }) := by
  rw [receive, h]
  rfl

/-- **Nothing but its own readings moves a cursor.** -/
theorem getElem?_cursors_step (h : s.cursors[i]? = some cursor) {a : Action}
    (other : a ≠ .receive i) : (s.step a).2.cursors[i]? = some cursor := by
  unfold step
  split
  · exact h
  · cases a with
    | subscribe handle =>
      show (s.cursors ++ [s.stream.published])[i]? = some cursor
      have hlt := (List.getElem?_eq_some_iff.mp h).1
      rwa [List.getElem?_append_left hlt]
    | receive j =>
      have hne : j ≠ i := fun heq => other (by rw [heq])
      show (s.cursors.set j _)[i]? = some cursor
      rwa [List.getElem?_set_ne hne]
    | clone handle => exact h
    | drop handle => exact h
    | shutdown handle => exact h
    | _ => rwa [(s.untouched_act rfl).cursors]

namespace Moment

/-- A move only adds to what was handled. -/
theorem handled_next (m : Moment) (move : Move) : m.handled <+: (m.next move).handled := by
  cases move with
  | act name a => exact List.prefix_append _ _
  | round => exact List.prefix_append _ _
  | _ => exact ⟨[], (List.append_nil _).trans (m.handled_next_of_isWait rfl).symm⟩

theorem getElem?_cursors_next {m : Moment} (h : m.service.cursors[i]? = some cursor) {move : Move}
    (other : ∀ name, move ≠ .act name (.receive i)) :
    (m.next move).service.cursors[i]? = some cursor := by
  cases move with
  | act name a => exact getElem?_cursors_step h fun heq => other name (by rw [heq])
  | round =>
    show m.service.round.2.cursors[i]? = some cursor
    rwa [m.service.untouched_round.cursors]
  | _ => rwa [(m.untouched_next rfl).cursors]

end Moment

/-! ## Readings -/

/-- **The updates that a reading stands for**, the lost ones without their texts. -/
def Received.slots : Received → List (Option Update)
  | .update u => [some u]
  | .lagged missed => List.replicate missed none
  | .empty => []
  | .closed => []

/-- What an action with this answer has brought to a subscription. -/
def Answer.readings (subscription : Nat) : Action → Answer → List Received
  | .receive i, .received r => if i = subscription then [r] else []
  | _, _ => []

theorem readings_eq_nil {a : Action} (other : a ≠ .receive i) (answer : Answer) :
    answer.readings i a = [] := by
  cases a with
  | receive j =>
    have hne : j ≠ i := fun heq => other (by rw [heq])
    cases answer with
    | received r => exact if_neg hne
    | _ => rfl
  | _ => rfl

section InOrder

variable {calculator : Calculator} {capacity : Nat} {accepted handled : List Keystroke}

theorem InOrder.holds (h : InOrder (new calculator capacity) accepted handled s) :
    s.stream.Holds (calculator.updates handled) := by
  rw [h.stream]
  exact Stream.holds_publishAll _ _

theorem InOrder.depth (h : InOrder (new calculator capacity) accepted handled s) :
    s.stream.depth = Stream.powerFor (max capacity 1) := by
  rw [h.stream, Stream.depth_publishAll]
  rfl

theorem InOrder.receive_stream (h : InOrder (new calculator capacity) accepted handled s)
    (cursor : Nat) :
    s.stream.receive cursor =
      if Stream.powerFor (max capacity 1) < handled.length - cursor then
        (.lagged (handled.length - cursor - Stream.powerFor (max capacity 1)),
          handled.length - Stream.powerFor (max capacity 1))
      else if cursor < handled.length then
        (.update (calculator.updateAfter handled (cursor + 1)), cursor + 1)
      else (.caughtUp, cursor) := by
  have hlength := calculator.length_updates handled
  rw [h.holds.receive_eq, h.depth, hlength]
  split
  next => rfl
  next =>
    by_cases hlt : cursor < handled.length
    · rw [if_pos hlt, calculator.getElem?_updates hlt]
    · rw [if_neg hlt, List.getElem?_eq_none (by omega)]

/-- **What the next reading gives** is settled by how many updates are unread: too many, some, or
none. -/
theorem InOrder.receive_eq (h : InOrder (new calculator capacity) accepted handled s)
    (place : s.cursors[i]? = some cursor) :
    (s.receive i).1 =
      if Stream.powerFor (max capacity 1) < handled.length - cursor then
        .lagged (handled.length - cursor - Stream.powerFor (max capacity 1))
      else if cursor < handled.length then .update (calculator.updateAfter handled (cursor + 1))
      else if s.mayPublish then .empty else .closed := by
  rw [receive_of_cursor place, h.receive_stream]
  split
  · rfl
  · split <;> rfl

/-- A reading moves the cursor past the updates that it stands for. -/
theorem InOrder.cursor_receive (h : InOrder (new calculator capacity) accepted handled s)
    (place : s.cursors[i]? = some cursor) (inside : cursor ≤ handled.length) :
    (s.receive i).2.cursors[i]? = some (cursor + (s.receive i).1.slots.length) ∧
      cursor + (s.receive i).1.slots.length ≤ handled.length := by
  have hlt := (List.getElem?_eq_some_iff.mp place).1
  rw [h.receive_eq place, receive_of_cursor place, h.receive_stream,
    List.getElem?_set_self hlt, Option.some_inj]
  split
  next behind =>
    simp only [Received.slots, List.length_replicate]
    omega
  next =>
    split
    next unread => exact ⟨rfl, unread⟩
    next => cases s.mayPublish <;> exact ⟨rfl, inside⟩

end InOrder

/-! ## Watching -/

/-- **A subscription watched** through a schedule: where the schedule has come to, and what the
readings of the subscription have given. -/
structure Watch where
  moment : Moment
  got : List Received := []

namespace Watch

/-- The updates that the readings stand for. -/
def slots (w : Watch) : List (Option Update) := w.got.flatMap Received.slots

/-- **One move**, watched. -/
def next (subscription : Nat) (w : Watch) (move : Move) : Watch where
  moment := w.moment.next move
  got := w.got ++
    match move with
    | .act _ a => (w.moment.service.step a).1.readings subscription a
    | _ => []

/-- Moves one after another, watched. -/
def run (subscription : Nat) (w : Watch) (moves : List Move) : Watch :=
  moves.foldl (next subscription) w

/-- **A subscription is in step** with the service, seen from when so many keystrokes had been
handled. -/
structure InStep (calculator : Calculator) (capacity subscription start : Nat) (w : Watch) :
    Prop where
  order : w.moment.InOrder (new calculator capacity)
  /-- The cursor stands behind what the readings stand for. -/
  cursor : w.moment.service.cursors[subscription]? = some (start + w.slots.length)
  /-- Nothing is read before it was published. -/
  inside : start + w.slots.length ≤ w.moment.handled.length
  /-- The readings stand for the updates in their order. -/
  slots : ∀ j slot, w.slots[j]? = some slot →
    slot = none ∨ slot = some (calculator.updateAfter w.moment.handled (start + j + 1))

variable {calculator : Calculator} {capacity subscription start : Nat} {w : Watch}

/-- What handles more keystrokes, and leaves the cursor and the readings alone, keeps a
subscription in step. -/
theorem InStep.frame (h : w.InStep calculator capacity subscription start) {after : Watch}
    (order : after.moment.InOrder (new calculator capacity))
    (cursor : after.moment.service.cursors[subscription]? = some (start + w.slots.length))
    (handled : w.moment.handled <+: after.moment.handled) (got : after.got = w.got) :
    after.InStep calculator capacity subscription start := by
  obtain ⟨more, hmore⟩ := handled
  have hslots : after.slots = w.slots := by rw [Watch.slots, got, Watch.slots]
  have hinside := h.inside
  refine ⟨order, by rwa [hslots], ?_, ?_⟩
  · rw [hslots, ← hmore, List.length_append]
    omega
  · intro j slot hslot
    rw [hslots] at hslot
    have hlt := (List.getElem?_eq_some_iff.mp hslot).1
    rw [← hmore, calculator.updateAfter_append (by omega)]
    exact h.slots j slot hslot

theorem got_receive (w : Watch) (subscription name : Nat) :
    (w.next subscription (.act name (.receive subscription))).got =
      w.got ++ [(w.moment.service.receive subscription).1] := by
  have hread : (w.moment.service.step (.receive subscription)).1.readings subscription
      (.receive subscription) = [(w.moment.service.receive subscription).1] := if_pos rfl
  rw [next, hread]

/-- **A reading keeps a subscription in step.** -/
theorem InStep.receive (h : w.InStep calculator capacity subscription start) (name : Nat) :
    (w.next subscription (.act name (.receive subscription))).InStep calculator capacity
      subscription start := by
  have hmoment := h.order.next (.act name (.receive subscription))
  obtain ⟨hcursor, hinside⟩ := InOrder.cursor_receive h.order h.cursor h.inside
  have hreceive := InOrder.receive_eq h.order h.cursor
  have hhandled : (w.next subscription (.act name (.receive subscription))).moment.handled =
      w.moment.handled := List.append_nil _
  have hslots : (w.next subscription (.act name (.receive subscription))).slots =
      w.slots ++ (w.moment.service.receive subscription).1.slots := by
    rw [Watch.slots, got_receive, List.flatMap_append, List.flatMap_singleton]
    rfl
  have hlength : start + (w.next subscription (.act name (.receive subscription))).slots.length =
      start + w.slots.length + (w.moment.service.receive subscription).1.slots.length := by
    rw [hslots, List.length_append, Nat.add_assoc]
  refine ⟨hmoment, ?_, ?_, ?_⟩
  · rw [hlength]
    exact hcursor
  · rw [hlength, hhandled]
    exact hinside
  · intro j slot hslot
    rw [hslots] at hslot
    rw [hhandled]
    by_cases old : j < w.slots.length
    · rw [List.getElem?_append_left old] at hslot
      exact h.slots j slot hslot
    · -- the reading's own updates: lost ones, or the next one
      rw [List.getElem?_append_right (by omega), hreceive] at hslot
      split at hslot
      · exact .inl (List.eq_of_mem_replicate (List.mem_of_getElem? hslot))
      · split at hslot
        · have hj : j - w.slots.length = 0 := by
            have := (List.getElem?_eq_some_iff.mp hslot).1
            simp only [Received.slots, List.length_singleton] at this
            omega
          rw [hj] at hslot
          obtain rfl : j = w.slots.length := by omega
          exact .inr (Option.some.inj hslot).symm
        · split at hslot <;> cases hslot

/-- **Every move keeps a subscription in step.** -/
theorem InStep.next (h : w.InStep calculator capacity subscription start) (move : Move) :
    (w.next subscription move).InStep calculator capacity subscription start := by
  by_cases own : ∃ name, move = .act name (.receive subscription)
  · obtain ⟨name, rfl⟩ := own
    exact h.receive name
  · have other : ∀ name, move ≠ .act name (.receive subscription) := not_exists.mp own
    refine h.frame (h.order.next move) (Moment.getElem?_cursors_next h.cursor other)
      (Moment.handled_next _ _) ?_
    cases move with
    | act name a =>
      have hne : a ≠ .receive subscription := fun heq => other name (by rw [heq])
      have hnone := readings_eq_nil hne (w.moment.service.step a).1
      rw [Watch.next, hnone, List.append_nil]
    | _ => exact List.append_nil _

/-- **Every schedule keeps a subscription in step.** -/
theorem InStep.run (h : w.InStep calculator capacity subscription start) (moves : List Move) :
    (w.run subscription moves).InStep calculator capacity subscription start := by
  induction moves generalizing w with
  | nil => exact h
  | cons move rest ih => exact ih (h.next move)

/-- A subscription that was just taken is in step. -/
theorem inStep_subscribe {m : Moment} (h : m.InOrder (new calculator capacity)) {handle : Nat}
    (held : m.service.holds handle) (name : Nat) :
    (Watch.mk (m.next (.act name (.subscribe handle))) []).InStep calculator capacity
      m.service.cursors.length m.handled.length := by
  have hstep : m.service.step (.subscribe handle) =
      (.number m.service.cursors.length, m.service.subscribe.2) := by
    have hlacks : ¬ m.service.lacksHandle (.subscribe handle) := by
      simp only [lacksHandle, Action.handle?, held]
      decide
    rw [step, if_neg hlacks]
    rfl
  have hhandled : (m.next (.act name (.subscribe handle))).handled = m.handled := by
    simp [Moment.next, stepHandled, takesTurn]
  have hpublished : m.service.stream.published = m.handled.length := by
    rw [(InOrder.holds h).published, calculator.length_updates]
  refine ⟨h.next _, ?_, ?_, ?_⟩
  · show (m.service.step (.subscribe handle)).2.cursors[m.service.cursors.length]? = _
    rw [hstep]
    show (m.service.cursors ++ [m.service.stream.published])[m.service.cursors.length]? = _
    rw [List.getElem?_concat_length, hpublished]
    rfl
  · exact Nat.le_of_eq (congrArg List.length hhandled.symm)
  · intro j slot hslot
    cases hslot

end Watch

/-! ## What is seen -/

/-- **What a subscriber sees.** A service was new, a schedule went on, a subscription was taken
through a handle that was held, and the schedule went on. What the subscription's readings stand for
are the updates of the keystrokes that were handled after it was taken, from the first one on, each
in its place, but for the lost ones. How the next reading ends is settled by how many updates are
unread: if they are more than the depth of the stream, it tells how many are lost, and these are all
but the newest that the depth has room for; otherwise it brings the next one; and if none is left,
it tells that there is none, or that none can come because the service is gone with all its handles.
The depth is the least power of two that is no less than the capacity. -/
theorem subscriber_sees (calculator : Calculator) (capacity : Nat) (before : List Move)
    (name handle : Nat)
    (held : (Moment.run { service := new calculator capacity } before).service.holds handle)
    (after : List Move) :
    let taken := Moment.run { service := new calculator capacity } before
    let subscription := taken.service.cursors.length
    let w := Watch.run subscription { moment := taken.next (.act name (.subscribe handle)) } after
    let handled := w.moment.handled
    let depth := Stream.powerFor (max capacity 1)
    let read := taken.handled.length + w.slots.length
    IsLeast {p | (∃ e, p = 2 ^ e) ∧ max capacity 1 ≤ p} depth ∧
      w.moment.service.calculator = calculator.pressAll handled ∧
      read ≤ handled.length ∧
      (∀ j slot, w.slots[j]? = some slot → slot = none ∨
        slot = some (calculator.updateAfter handled (taken.handled.length + j + 1))) ∧
      ∀ name, (w.next subscription (.act name (.receive subscription))).got = w.got ++
        [if depth < handled.length - read then .lagged (handled.length - read - depth)
          else if read < handled.length then .update (calculator.updateAfter handled (read + 1))
          else if w.moment.service.phase.isOpen ∨ w.moment.service.anyHandle then .empty
          else .closed] := by
  intro taken subscription w handled depth read
  have htaken : taken.InOrder (new calculator capacity) :=
    (show (Moment.mk (new calculator capacity) [] [] []).InOrder _ from
      inOrder_new calculator capacity).run before
  have h := (Watch.inStep_subscribe htaken held name).run after
  refine ⟨Stream.powerFor_isLeast _, InOrder.calculator h.order, h.inside, h.slots, ?_⟩
  intro name
  rw [Watch.got_receive, InOrder.receive_eq h.order h.cursor]
  simp only [mayPublish, Bool.or_eq_true]
  rfl

/-- With room for one update: the first keystroke is handled before the subscription is taken, the
second is lost, the third is read; and nothing comes any more when the handle is dropped and the
task has ended. -/
theorem subscriber_sees_lag :
    let before : List Move := [.act 0 .start, .act 0 (.trySend 0 (.digit '1')), .round]
    let after : List Move :=
      [.act 0 (.trySend 0 (.digit '2')), .round, .act 0 (.trySend 0 (.digit '3')), .round,
        .act 0 (.receive 0), .act 0 (.receive 0), .act 0 (.receive 0), .act 0 (.drop 0), .round]
    (Moment.run { service := new (.fresh {}) 1 } before).service.holds 0 ∧
      let taken := Moment.run { service := new (.fresh {}) 1 } before
      let w := Watch.run 0 { moment := taken.next (.act 0 (.subscribe 0)) } after
      w.got = [.lagged 1, .update ⟨['1', '2', '3'], .idle⟩, .empty] ∧
        (w.next 0 (.act 0 (.receive 0))).got = w.got ++ [.closed] := by
  intro before after
  have held : (Moment.run { service := new (.fresh {}) 1 } before).service.holds 0 := by decide
  refine ⟨held, by decide, ?_⟩
  refine ((subscriber_sees (.fresh {}) 1 before 0 0 held after).2.2.2.2 0).trans ?_
  decide

end PocketCalc.Service
