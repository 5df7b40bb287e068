import PocketCalc.Proofs.Service.Invariant

/-!
# A service in order

Three histories meet in a service: the keystrokes that were accepted, those that were handled, and
those that are queued. A service is **in order** (`InOrder`) when what was handled is the front of
what was accepted, the calculator and the updates are those of what was handled, and, as long as the
service is open, the queue is what is left.

**The law** (`InOrder.step`, `Moment.InOrder.next`, `Moment.InOrder.run`): every action, every move
and every schedule keeps a service in order.

**What it does not establish.** That anything is ever handled: a task may get no rounds, and one
that was asked to shut down leaves its queue behind.
-/

namespace PocketCalc.Service

/-! ## The order of things -/

/-- **A service is in order**, seen from the service it began as. -/
structure InOrder (initial : Service) (accepted handled : List Keystroke) (s : Service) : Prop where
  /-- What was handled was accepted before, in the same order. -/
  front : handled <+: accepted
  /-- The calculator has been given exactly what was handled. -/
  calculator : s.calculator = initial.calculator.pressAll handled
  /-- One update was published for each keystroke that was handled. -/
  stream : s.stream = initial.stream.publishAll (initial.calculator.updates handled)
  /-- Nothing that was accepted is lost while it can still be handled. -/
  queue : s.phase.isOpen → accepted = handled ++ s.queue
  capacity : s.capacity = initial.capacity
  room : s.queue.length ≤ initial.capacity

variable {initial s : Service} {accepted handled : List Keystroke}

/-- A new service is in order. -/
theorem inOrder_new (calculator : Calculator) (capacity : Nat) :
    InOrder (new calculator capacity) [] [] (new calculator capacity) where
  front := List.prefix_rfl
  calculator := rfl
  stream := rfl
  queue := fun _ => rfl
  capacity := rfl
  room := Nat.zero_le _

/-- What touches neither the calculator nor the queue leaves the order as it is. -/
theorem InOrder.frame (h : InOrder initial accepted handled s) {after : Service}
    (calculator : after.calculator = s.calculator) (stream : after.stream = s.stream)
    (queue : after.queue = s.queue) (capacity : after.capacity = s.capacity)
    (isOpen : after.phase.isOpen → s.phase.isOpen) : InOrder initial accepted handled after where
  front := h.front
  calculator := calculator.trans h.calculator
  stream := stream.trans h.stream
  queue := by
    intro hopen
    rw [queue]
    exact h.queue (isOpen hopen)
  capacity := capacity.trans h.capacity
  room := by
    rw [queue]
    exact h.room

/-- Where nothing can be handled any more, the queue may go. -/
theorem InOrder.close (h : InOrder initial accepted handled s) {phase : Phase}
    (closed : phase.isOpen = false) :
    InOrder initial accepted handled { s with phase, queue := [] } where
  front := h.front
  calculator := h.calculator
  stream := h.stream
  queue := by
    intro hopen
    rw [closed] at hopen
    cases hopen
  capacity := h.capacity
  room := Nat.zero_le _

/-! ## Sending -/

/-- **An accepted keystroke** is the last of the accepted ones, and the last of the queue. -/
theorem InOrder.accept (h : InOrder initial accepted handled s) {key : Keystroke} {after : Service}
    (ok : s.trySend key = .ok after) : InOrder initial (accepted ++ [key]) handled after := by
  obtain ⟨hopen, hroom, rfl⟩ := trySend_eq_ok ok
  refine ⟨?_, h.calculator, h.stream, ?_, h.capacity, ?_⟩
  · exact h.front.trans (List.prefix_append _ _)
  · intro _
    show accepted ++ [key] = handled ++ (s.queue ++ [key])
    rw [h.queue hopen, List.append_assoc]
  · show (s.queue ++ [key]).length ≤ initial.capacity
    rw [List.length_append, List.length_singleton, ← h.capacity]
    exact hroom

/-- How a keystroke is received where no more than the queue's room is taken. -/
theorem InOrder.trySend_eq (h : InOrder initial accepted handled s) (key : Keystroke) :
    s.trySend key =
      if s.phase.isOpen = false then .error .closed
      else if s.queue.length = initial.capacity then .error .full
      else .ok { s with queue := s.queue ++ [key] } := by
  unfold trySend
  have hfull : s.capacity ≤ s.queue.length ↔ s.queue.length = initial.capacity := by
    have hroom := h.room
    rw [h.capacity]
    omega
  simp only [hfull, Bool.not_eq_true']

/-! ## The task -/

/-- **A round of the task** handles the front of the queue, or nothing. -/
theorem InOrder.round (h : InOrder initial accepted handled s) :
    InOrder initial accepted (handled ++ s.round.1) s.round.2 := by
  cases hrun : s.isRunning with
  | false =>
    rw [round_of_not_running hrun, List.append_nil]
    exact h
  | true =>
    obtain ⟨announced, hp⟩ := exists_of_isRunning hrun
    have hopen : s.phase.isOpen := by rw [hp]; rfl
    cases hshut : s.shutdownRequested with
    | true =>
      rw [round_shutdown hp hshut, List.append_nil]
      exact h.close rfl
    | false =>
      cases hq : s.queue with
      | nil =>
        rw [round_nil hp hshut hq, List.append_nil]
        exact h.frame rfl rfl rfl rfl fun _ => hopen
      | cons key rest =>
        have haccepted : accepted = handled ++ [key] ++ rest := by
          rw [h.queue hopen, hq, List.append_assoc, List.singleton_append]
        rw [round_cons hp hshut hq]
        refine ⟨?_, ?_, ?_, ?_, h.capacity, ?_⟩
        · exact haccepted ▸ List.prefix_append _ _
        · show s.calculator.press key = _
          rw [h.calculator, Calculator.pressAll_append]
          rfl
        · show s.stream.publish (.of (s.calculator.press key)) = _
          rw [h.stream, h.calculator, Calculator.updates_append, Stream.publishAll,
            Stream.publishAll, List.foldl_append]
          rfl
        · exact fun _ => haccepted
        · have hroom := h.room
          rw [hq, List.length_cons] at hroom
          exact Nat.le_of_succ_le hroom

/-! ## Actions -/

theorem InOrder.start (h : InOrder initial accepted handled s) :
    InOrder initial accepted handled s.start.2 := by
  unfold Service.start
  cases hp : s.phase with
  | waiting => exact h.frame rfl rfl rfl rfl fun _ => by rw [hp]; rfl
  | _ => exact h

theorem InOrder.stop (h : InOrder initial accepted handled s) :
    InOrder initial accepted handled s.stop := by
  unfold Service.stop
  cases s.phase with
  | waiting => exact h.close rfl
  | _ => exact h

theorem InOrder.collect (h : InOrder initial accepted handled s) :
    InOrder initial accepted handled s.collect.2 := by
  unfold Service.collect
  cases s.phase with
  | finished => exact h.frame rfl rfl rfl rfl fun hopen => by cases hopen
  | _ => exact h

/-- **Whatever is done with a service** keeps it in order. -/
theorem kept_inOrder (initial : Service) :
    Kept fun accepted handled _ s => InOrder initial accepted handled s where
  accept := fun h _ _ ok => h.accept ok
  round := fun h => h.round
  clone := fun h _ => h.frame rfl rfl rfl rfl id
  drop := fun h _ => h.frame rfl rfl rfl rfl id
  subscribe := fun h => h.frame rfl rfl rfl rfl id
  receive := fun h _ => h.frame rfl rfl rfl rfl id
  requestShutdown := fun h _ => h.frame rfl rfl rfl rfl id
  start := fun h => h.start
  stop := fun h => h.stop
  collect := fun h => h.collect

theorem InOrder.turn (h : InOrder initial accepted handled s) :
    InOrder initial accepted (handled ++ s.upcoming) s.turn :=
  (kept_inOrder initial).turn [] h

/-- **Every action keeps a service in order.** -/
theorem InOrder.step (h : InOrder initial accepted handled s) (a : Action) :
    InOrder initial (accepted ++ (s.step a).1.keystrokes a) (handled ++ s.stepHandled a)
      (s.step a).2 :=
  (kept_inOrder initial).step [] h a

/-! ## Schedules -/

namespace Moment

/-- A moment is in order. -/
def InOrder (initial : Service) (m : Moment) : Prop :=
  Service.InOrder initial m.acceptedKeys m.handled m.service

variable {m : Moment}

/-- **Every move keeps a moment in order.** -/
theorem InOrder.next (h : m.InOrder initial) (move : Move) : (m.next move).InOrder initial :=
  (kept_inOrder initial).next [] h move

/-- **Every schedule keeps a moment in order.** -/
theorem InOrder.run (h : m.InOrder initial) (moves : List Move) :
    (m.run moves).InOrder initial :=
  (kept_inOrder initial).run [] h moves

/-- The second send waits for a place, and is queued behind what was sent before it. -/
example :
    let m := (Moment.mk (new (.fresh {}) 1) [] [] []).run
      [.beginSend 0 0 (.digit '1'), .beginSend 1 0 (.digit '2'), .act 2 .start, .round, .retry 1]
    m.handled = [.digit '1'] ∧ m.service.queue = [.digit '2'] ∧ m.waiting = [] := by
  decide

end Moment

theorem inOrder_run (calculator : Calculator) (capacity : Nat) (actions : List Action) :
    let history := (new calculator capacity).run actions
    InOrder (new calculator capacity) history.accepted history.handled history.service := by
  intro history
  obtain ⟨hservice, haccepted, hhandled⟩ := Moment.run_act (new calculator capacity) actions
  have h := (show (Moment.mk (new calculator capacity) [] [] []).InOrder _ from
    inOrder_new calculator capacity).run (actions.map (.act 0))
  unfold Moment.InOrder at h
  rwa [hservice, haccepted, hhandled] at h

end PocketCalc.Service
