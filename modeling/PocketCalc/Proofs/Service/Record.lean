import PocketCalc.Proofs.Service.Order

/-!
# The record of a service

What is to be told of a service follows from the phase that it has come to and from the keystrokes
that it has handled (`Service.record`): nothing before the first round; then that the task started,
and what the calculator tells of each keystroke; and at the end why it ended, and with which text.

**The law** (`kept_recorded`, `recorded_run`): after every schedule, exactly that was told. With it
go the reasons for which a task can have ended.

**What it does not establish.** What other parts of the program tell the log in between.
-/

namespace PocketCalc

namespace Phase

/-- The task has not had a round yet, and may have one. -/
def isUnbegun : Phase → Bool
  | waiting => true
  | running announced => !announced
  | _ => false

/-- The task was started, and has ended. -/
def hasEnded : Phase → Bool
  | finished => true
  | collected => true
  | _ => false

theorem isOpen_of_hasEnded {phase : Phase} (ended : phase.hasEnded) : phase.isOpen = false := by
  cases phase with
  | finished => rfl
  | collected => rfl
  | _ => cases ended

end Phase

namespace Service

/-! ## The record -/

/-- **What is to be told of a service** that began with a calculator and has handled some
keystrokes. -/
def record (calculator : Calculator) (handled : List Keystroke) (s : Service) : List Log.Event :=
  match s.phase with
  | .running true => startingEvent calculator :: calculator.eventsAll handled
  | .finished => startingEvent calculator ::
      (calculator.eventsAll handled ++ [s.endingEvent, stoppedEvent s.calculator])
  | .collected => startingEvent calculator ::
      (calculator.eventsAll handled ++ [s.endingEvent, stoppedEvent s.calculator])
  | _ => []

/-- **A service is in order, and the log was told so.** -/
structure Recorded (initial : Service) (accepted handled : List Keystroke) (log : List Log.Event)
    (s : Service) : Prop where
  order : InOrder initial accepted handled s
  log : log = s.record initial.calculator handled
  /-- Nothing is handled before the first round. -/
  unbegun : s.phase.isUnbegun → handled = []
  /-- A task ends when it is asked to, or else when nothing is left that could be handled. -/
  ended : s.phase.hasEnded → s.shutdownRequested ∨ (s.anyHandle = false ∧ accepted = handled)

variable {initial s : Service} {accepted handled : List Keystroke} {log : List Log.Event}

theorem recorded_new (calculator : Calculator) (capacity : Nat) :
    Recorded (new calculator capacity) [] [] [] (new calculator capacity) where
  order := inOrder_new calculator capacity
  log := rfl
  unbegun := fun _ => rfl
  ended := fun ended => by cases ended

/-- What neither lets the task run nor asks an ended one to end leaves the record as it is. -/
theorem Recorded.frame (h : Recorded initial accepted handled log s) {after : Service}
    (order : InOrder initial accepted handled after) (phase : after.phase = s.phase)
    (shutdown : s.phase.hasEnded → after.shutdownRequested = s.shutdownRequested)
    (handles : s.anyHandle = false → after.anyHandle = false) :
    Recorded initial accepted handled log after where
  order := order
  log := by
    have calculator : after.calculator = s.calculator :=
      order.calculator.trans h.order.calculator.symm
    rw [h.log, record, record, phase, calculator, endingEvent, endingEvent]
    split
    · rfl
    next ended => rw [shutdown (by rw [ended]; rfl)]
    next ended => rw [shutdown (by rw [ended]; rfl)]
    · rfl
  unbegun := by
    rw [phase]
    exact h.unbegun
  ended := by
    intro ended
    rw [phase] at ended
    rw [shutdown ended]
    exact (h.ended ended).imp_right fun none => ⟨handles none.1, none.2⟩

/-- While somebody holds a handle, an ended task was asked to end. -/
theorem Recorded.shutdown_of_anyHandle (h : Recorded initial accepted handled log s)
    (held : s.anyHandle) (ended : s.phase.hasEnded) : s.shutdownRequested := by
  refine (h.ended ended).resolve_right ?_
  rintro ⟨none, -⟩
  rw [none] at held
  cases held

theorem Recorded.accept (h : Recorded initial accepted handled log s) {key : Keystroke}
    {after : Service} (ok : s.trySend key = .ok after) :
    Recorded initial (accepted ++ [key]) handled log after := by
  have order := h.order.accept ok
  obtain ⟨hopen, -, rfl⟩ := trySend_eq_ok ok
  refine ⟨order, h.log, h.unbegun, ?_⟩
  intro ended
  rw [Phase.isOpen_of_hasEnded ended] at hopen
  cases hopen

/-! ## The task -/

/-- What was told so far, with the opening where the task has not begun. -/
theorem Recorded.opening (h : Recorded initial accepted handled log s) {announced : Bool}
    (hp : s.phase = .running announced) :
    log ++ openingEvents announced s.calculator =
      startingEvent initial.calculator :: initial.calculator.eventsAll handled := by
  rw [h.log, record, hp]
  cases announced with
  | true => exact List.append_nil _
  | false =>
    have none : handled = [] := h.unbegun (by rw [hp]; rfl)
    have calculator := h.order.calculator
    rw [none] at calculator ⊢
    rw [calculator]
    rfl

/-- **A round tells what is missing.** -/
theorem Recorded.round (h : Recorded initial accepted handled log s) :
    Recorded initial accepted (handled ++ s.round.1) (log ++ s.roundEvents) s.round.2 := by
  have order := h.order.round
  cases hrun : s.isRunning with
  | false =>
    rw [round_of_not_running hrun, roundEvents_of_not_running hrun, List.append_nil,
      List.append_nil]
    exact h
  | true =>
    obtain ⟨announced, hp⟩ := exists_of_isRunning hrun
    have opening := h.opening hp
    cases hshut : s.shutdownRequested with
    | true =>
      rw [round_shutdown hp hshut, List.append_nil] at order ⊢
      rw [roundEvents_shutdown hp hshut, ← List.append_assoc, opening]
      exact ⟨order, rfl, nofun, fun _ => .inl hshut⟩
    | false =>
      cases hq : s.queue with
      | nil =>
        rw [round_nil hp hshut hq, List.append_nil] at order ⊢
        rw [roundEvents_nil hp hshut hq, ← List.append_assoc, opening]
        cases hany : s.anyHandle with
        | true =>
          rw [hany] at order
          exact ⟨order, List.append_nil _, nofun, nofun⟩
        | false =>
          rw [hany] at order
          have all : accepted = handled := by
            rw [h.order.queue (by rw [hp]; rfl), hq, List.append_nil]
          exact ⟨order, rfl, nofun, fun _ => .inr ⟨hany, all⟩⟩
      | cons key rest =>
        rw [round_cons hp hshut hq] at order ⊢
        rw [roundEvents_cons hp hshut hq, ← List.append_assoc, opening]
        refine ⟨order, ?_, nofun, nofun⟩
        show _ = startingEvent initial.calculator :: initial.calculator.eventsAll (handled ++ [key])
        rw [Calculator.eventsAll_append, ← h.order.calculator, Calculator.eventsAll,
          Calculator.eventsAll, List.append_nil]
        rfl

/-! ## Actions -/

theorem Recorded.start (h : Recorded initial accepted handled log s) :
    Recorded initial accepted handled log s.start.2 := by
  have order := h.order.start
  unfold Service.start at order ⊢
  cases hp : s.phase with
  | waiting =>
    rw [hp] at order
    have hlog := h.log
    rw [record, hp] at hlog
    exact ⟨order, hlog, fun _ => h.unbegun (by rw [hp]; rfl), nofun⟩
  | _ => exact h

theorem Recorded.stop (h : Recorded initial accepted handled log s) :
    Recorded initial accepted handled log s.stop := by
  have order := h.order.stop
  unfold Service.stop at order ⊢
  cases hp : s.phase with
  | waiting =>
    rw [hp] at order
    have hlog := h.log
    rw [record, hp] at hlog
    exact ⟨order, hlog, nofun, nofun⟩
  | _ => exact h

theorem Recorded.collect (h : Recorded initial accepted handled log s) :
    Recorded initial accepted handled log s.collect.2 := by
  have order := h.order.collect
  unfold Service.collect at order ⊢
  cases hp : s.phase with
  | finished =>
    rw [hp] at order
    have hlog := h.log
    rw [record, hp] at hlog
    exact ⟨order, hlog, nofun, fun _ => h.ended (by rw [hp]; rfl)⟩
  | _ => exact h

/-- Dropping a handle does not bring one back. -/
theorem anyHandle_drop (none : s.anyHandle = false) (handle : Nat) :
    (s.drop handle).anyHandle = false := by
  refine List.any_eq_false.mpr fun b hb => ?_
  rcases List.mem_or_eq_of_mem_set hb with old | rfl
  · exact List.any_eq_false.mp none b old
  · decide

/-- **Whatever is done with a service** tells what is missing. -/
theorem kept_recorded (initial : Service) : Kept (Recorded initial) where
  accept := fun h _ _ ok => h.accept ok
  round := fun h => h.round
  clone := fun h held => h.frame (h.order.frame rfl rfl rfl rfl id) rfl (fun _ => rfl)
    fun none => by rw [none] at held; cases held
  drop := fun h handle => h.frame (h.order.frame rfl rfl rfl rfl id) rfl (fun _ => rfl)
    fun none => anyHandle_drop none handle
  subscribe := fun h => h.frame (h.order.frame rfl rfl rfl rfl id) rfl (fun _ => rfl) id
  receive := fun h _ => h.frame (h.order.frame rfl rfl rfl rfl id) rfl (fun _ => rfl) id
  requestShutdown := fun h held => h.frame (h.order.frame rfl rfl rfl rfl id) rfl
    (fun ended => (h.shutdown_of_anyHandle held ended).symm) id
  start := fun h => h.start
  stop := fun h => h.stop
  collect := fun h => h.collect

/-! ## Schedules -/

namespace Moment

/-- A moment is in order, and the log was told so. -/
def Recorded (initial : Service) (log : List Log.Event) (m : Moment) : Prop :=
  Service.Recorded initial m.acceptedKeys m.handled log m.service

end Moment

/-- **Every schedule tells what is to be told.** -/
theorem recorded_run (calculator : Calculator) (capacity : Nat) (moves : List Move) :
    let begun : Moment := { service := new calculator capacity }
    (begun.run moves).Recorded (new calculator capacity) (begun.told moves) := by
  intro begun
  have h : begun.Recorded (new calculator capacity) [] := recorded_new calculator capacity
  exact (kept_recorded (new calculator capacity)).run [] h moves

end Service

end PocketCalc
