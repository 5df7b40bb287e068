import PocketCalc.Proofs.Service.Record

/-!
# How a service ends

A task ends in one of two ways, and they promise opposite things about what is queued. One that was
asked to shut down handles nothing any more and leaves its queue behind. One that was not asked ends
when nobody holds a handle, and has handled all that was accepted.

**The law** (`Service.task_ends`): why a task ends, what it has handled by then, and what the log
was told, under every schedule.

**What it does not establish.** That a task which is asked to shut down has another turn, or that
anybody drops the last handle.
-/

namespace PocketCalc

namespace Service

variable {s : Service}

/-! ## Requests to shut down -/

/-- The action asks for a shutdown, through a handle that is held. -/
def asks (s : Service) : Action → Bool
  | .shutdown handle => s.holds handle
  | _ => false

/-- **Only such an action makes a request**, and none takes it back. -/
theorem shutdownRequested_step (s : Service) (a : Action) :
    (s.step a).2.shutdownRequested = (s.shutdownRequested || s.asks a) := by
  unfold step
  split
  next lacks =>
    have silent : s.asks a = false := by
      cases a with
      | shutdown handle => simpa [asks, lacksHandle, Action.handle?] using lacks
      | _ => rfl
    rw [silent, Bool.or_false]
  next holds =>
    cases a with
    | shutdown handle =>
      have held : s.holds handle = true := by
        simpa [lacksHandle, Action.handle?] using holds
      rw [asks, held, Bool.or_true]
      rfl
    | clone handle => exact (Bool.or_false _).symm
    | drop handle => exact (Bool.or_false _).symm
    | subscribe handle => exact (Bool.or_false _).symm
    | receive i => exact (Bool.or_false _).symm
    | _ => exact (s.untouched_act rfl).shutdown.trans (Bool.or_false _).symm

/-! ## What a request leaves undone -/

theorem upcoming_of_shutdown (asked : s.shutdownRequested) : s.upcoming = [] := by
  unfold upcoming
  rw [if_pos asked]
  split <;> rfl

theorem round_of_shutdown (asked : s.shutdownRequested) : s.round.1 = [] := by
  cases hrun : s.isRunning with
  | false => rw [round_of_not_running hrun]
  | true =>
    obtain ⟨announced, hp⟩ := exists_of_isRunning hrun
    rw [round_shutdown hp asked]

/-- **The turn after a request is the last**, and the queue goes. -/
theorem turn_of_shutdown (running : s.isRunning) (asked : s.shutdownRequested) :
    s.turn = { s with phase := .finished, queue := [] } := by
  obtain ⟨announced, hp⟩ := exists_of_isRunning running
  have last : s.endsNext := by simp [endsNext, hp, asked]
  rw [turn_of_running hp, upcoming_of_shutdown asked, if_pos last]
  rfl

/-- A send that has to wait lets the task take that turn, and is refused. -/
theorem step_of_shutdown (running : s.isRunning) (asked : s.shutdownRequested) {a : Action}
    (turn : s.takesTurn a) : (s.step a).2 = { s with phase := .finished, queue := [] } := by
  unfold takesTurn at turn
  rw [Bool.and_eq_true, Bool.not_eq_true'] at turn
  obtain ⟨holds, turn⟩ := turn
  rw [step, holds]
  cases a with
  | turn => exact turn_of_shutdown running asked
  | send handle key =>
    have full : s.trySend key = .error .full := by
      simp only at turn
      split at turn
      next full => exact full
      next => cases turn
    have refused : s.turn.trySend key = .error .closed := by
      rw [turn_of_shutdown running asked]
      rfl
    simp only [Bool.false_eq_true, if_false, act, send, full, running, if_true, refused]
    exact turn_of_shutdown running asked
  | _ => cases turn

/-- **The turn after the last handle is the last**, and handles the whole queue. -/
theorem turn_of_anyHandle (running : s.isRunning) (unasked : s.shutdownRequested = false)
    (none : s.anyHandle = false) : s.turn.phase = .finished ∧ s.upcoming = s.queue := by
  obtain ⟨announced, hp⟩ := exists_of_isRunning running
  have last : s.endsNext := by simp [endsNext, hp, none]
  constructor
  · rw [turn_of_running hp, if_pos last]
  · simp [upcoming, hp, unasked]

namespace Moment

variable {m : Moment}

/-- The move asks for a shutdown. -/
def asks (m : Moment) : Move → Bool
  | .act _ a => m.service.asks a
  | _ => false

/-- **One of the moves asks for a shutdown.** -/
def asked (m : Moment) : List Move → Bool
  | [] => false
  | move :: rest => m.asks move || (m.next move).asked rest

theorem shutdownRequested_next (m : Moment) (move : Move) :
    (m.next move).service.shutdownRequested = (m.service.shutdownRequested || m.asks move) := by
  cases move with
  | act name a => exact m.service.shutdownRequested_step a
  | round => exact m.service.untouched_round.shutdown.trans (Bool.or_false _).symm
  | _ => exact (m.untouched_next rfl).shutdown.trans (Bool.or_false _).symm

theorem shutdownRequested_run (m : Moment) (moves : List Move) :
    (m.run moves).service.shutdownRequested =
      (m.service.shutdownRequested || m.asked moves) := by
  induction moves generalizing m with
  | nil => exact (Bool.or_false _).symm
  | cons move rest ih =>
    show ((m.next move).run rest).service.shutdownRequested = _
    rw [ih, shutdownRequested_next, Bool.or_assoc]
    rfl

/-- **Once asked, a service handles nothing more.** -/
theorem handled_next_of_shutdown (asked : m.service.shutdownRequested) (move : Move) :
    (m.next move).handled = m.handled := by
  cases move with
  | act name a =>
    show m.handled ++ m.service.stepHandled a = m.handled
    rw [stepHandled, upcoming_of_shutdown asked, ite_self, List.append_nil]
  | round =>
    show m.handled ++ m.service.round.1 = m.handled
    rw [round_of_shutdown asked, List.append_nil]
  | _ => exact m.handled_next_of_isWait rfl

theorem handled_run_of_shutdown (asked : m.service.shutdownRequested) (moves : List Move) :
    (m.run moves).handled = m.handled := by
  induction moves generalizing m with
  | nil => rfl
  | cons move rest ih =>
    have still : (m.next move).service.shutdownRequested := by
      rw [shutdownRequested_next, asked, Bool.true_or]
    exact (ih still).trans (handled_next_of_shutdown asked move)

end Moment

end Service

/-! ## What the calculator tells -/

namespace Calculator

theorem target_of_mem_details {c : Calculator} {key : Keystroke} {e : Log.Event}
    (mem : e ∈ c.detailEvents key) :
    e.target = target ∨ e.target = Split.target ∨ e.target = Reduction.target := by
  cases key with
  | digit symbol =>
    rw [detailEvents] at mem
    split at mem
    · cases mem
    · obtain rfl := List.mem_singleton.mp mem
      exact .inl rfl
  | operator op =>
    rw [detailEvents, evaluateEvents] at mem
    split at mem
    · cases mem
    · rcases List.mem_append.mp mem with aside | reduction
      · obtain ⟨text, -, rfl⟩ := List.mem_map.mp aside
        exact .inr (.inl rfl)
      · split at reduction
        · cases reduction
        · unfold reductionEvents Reduction.events at reduction
          cases hreduce : Reduction.reduce op (c.splitBy op).operands with
          | ok x =>
            rw [hreduce] at reduction
            obtain rfl := List.mem_singleton.mp reduction
            exact .inr (.inr rfl)
          | error reason =>
            rw [hreduce] at reduction
            obtain rfl := List.mem_singleton.mp reduction
            exact .inl rfl
  | _ => cases mem

/-- **A calculator never speaks for its service.** -/
theorem target_of_mem_eventsAll {c : Calculator} {keys : List Keystroke} {e : Log.Event}
    (mem : e ∈ c.eventsAll keys) : e.target ≠ Service.target := by
  induction keys generalizing c with
  | nil => cases mem
  | cons key rest ih =>
    rcases List.mem_append.mp mem with now | later
    · rcases List.mem_append.mp now with details | last
      · rcases target_of_mem_details details with h | h | h <;> rw [h] <;> decide
      · obtain rfl := List.mem_singleton.mp last
        show Calculator.target ≠ Service.target
        decide
    · exact ih later

end Calculator

namespace Service

/-- **How a service ends.** A service was new, and a schedule has come to some moment.

* The task has ended only if it was asked to shut down, or nobody holds a handle.
* Once it was asked, through any handle and at any time, no keystroke is handled any more, whatever
  happens then; and if the task runs, the next move that lets it have a turn or a round ends it, and
  the queue goes.
* If it was not asked, then a task that has ended has handled every keystroke that was accepted, and
  nobody holds a handle; and as long as the task runs, one more turn without a handle handles them
  all and ends it.
* The log of an ended task says that it started, and with which text; what the calculator tells of
  the keystrokes that were handled; why it ended; and that it stopped, with the text of the
  calculator that is handed over. The calculator says nothing in the service's name. -/
theorem task_ends (calculator : Calculator) (capacity : Nat) (moves : List Move) :
    let begun : Moment := { service := new calculator capacity }
    let m := begun.run moves
    let s := m.service
    let asked := begun.asked moves
    (s.phase.hasEnded → asked ∨ s.anyHandle = false) ∧
      (asked →
        (∀ more, (m.run more).handled = m.handled) ∧
          (s.isRunning → ∀ move, move = .round ∨ (∃ name a, move = .act name a ∧ s.takesTurn a) →
            (m.next move).service = { s with phase := .finished, queue := [] })) ∧
      (asked = false →
        (s.phase.hasEnded → s.anyHandle = false ∧ m.handled = m.acceptedKeys) ∧
          (s.isRunning → s.anyHandle = false → ∀ name,
            (m.next (.act name .turn)).service.phase = .finished ∧
              (m.next (.act name .turn)).handled = m.acceptedKeys)) ∧
      (s.phase.hasEnded →
        begun.told moves =
            .of .info target "calculator service starting"
                [("buffer", String.ofList calculator.buffer)] ::
              (calculator.eventsAll m.handled ++
                [if asked then .of .info target "shutdown requested, stopping calculator service"
                  else .of .debug target "all handles dropped",
                .of .info target "calculator service stopped"
                  [("buffer", String.ofList s.calculator.buffer)]]) ∧
          (∀ e ∈ calculator.eventsAll m.handled, e.target ≠ target) ∧
          (s.phase = .finished → (s.step .collect).1 = .joined (.ended s.calculator))) := by
  intro begun m s asked
  have h : m.Recorded (new calculator capacity) (begun.told moves) :=
    recorded_run calculator capacity moves
  have request : s.shutdownRequested = asked := begun.shutdownRequested_run moves
  refine ⟨?_, ?_, ?_, ?_⟩
  · intro ended
    rw [← request]
    exact (h.ended ended).imp_right And.left
  · intro was
    have requested : s.shutdownRequested := request.trans was
    refine ⟨Moment.handled_run_of_shutdown requested, ?_⟩
    rintro running move (rfl | ⟨name, a, rfl, turn⟩)
    · obtain ⟨announced, hp⟩ := exists_of_isRunning running
      show s.round.2 = _
      rw [round_shutdown hp requested]
    · exact step_of_shutdown running requested turn
  · intro wasNot
    have unrequested : s.shutdownRequested = false := request.trans wasNot
    constructor
    · intro ended
      obtain ⟨none, all⟩ := (h.ended ended).resolve_left (by rw [unrequested]; decide)
      exact ⟨none, all.symm⟩
    · intro running none name
      obtain ⟨finished, upcoming⟩ := turn_of_anyHandle running unrequested none
      obtain ⟨announced, hp⟩ := exists_of_isRunning running
      refine ⟨finished, ?_⟩
      show m.handled ++ s.upcoming = m.acceptedKeys
      rw [upcoming]
      exact (h.order.queue (by rw [hp]; rfl)).symm
  · intro ended
    refine ⟨?_, fun e mem => Calculator.target_of_mem_eventsAll mem, ?_⟩
    · rw [h.log, ← request]
      show s.record calculator m.handled = _
      unfold record
      cases hp : s.phase with
      | finished => rfl
      | collected => rfl
      | _ => rw [hp] at ended; cases ended
    · intro finished
      show Answer.joined s.collect.1 = _
      rw [collect, finished]

/-- The same keystroke is lost by a request, and handled when the last handle goes. -/
example :
    let begun : Moment := { service := new (.fresh {}) 4 }
    let sent := begun.run [.act 0 .start, .act 1 (.trySend 0 (.digit '1'))]
    let asked := sent.run [.act 2 (.shutdown 0), .round]
    let left := sent.run [.act 2 (.drop 0), .round, .round]
    asked.service.phase = .finished ∧ asked.handled = [] ∧
      left.service.phase = .finished ∧ left.handled = [.digit '1'] := by
  decide

end Service

end PocketCalc
