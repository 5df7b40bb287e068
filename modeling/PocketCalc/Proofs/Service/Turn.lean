import PocketCalc.Service.Run

/-!
# A turn, round by round

A turn of the task is a loop. In each **round** (`Service.round`) the task looks for a request to
shut down, and if there is none takes one keystroke from the queue, or waits, or ends. Handles may
be used between two rounds; a turn is what happens when they are not.

A round tells the log a part of what a turn tells (`Service.roundEvents`): that the task starts,
if it is the first, then what the calculator tells of a keystroke, and at the end why the task ends.

**The law** (`rounds_eq_turn`, `roundsEvents_eq_turnEvents`): with one round more than keystrokes
are queued, the task has done what a turn does, has handled what was upcoming, and has told what a
turn tells.

**What it does not establish.** That the task gets its rounds one right after the other.
-/

namespace PocketCalc

/-- The updates that keystrokes lead to, one after each. -/
def Calculator.updates (c : Calculator) : List Keystroke → List Update
  | [] => []
  | key :: rest => .of (c.press key) :: (c.press key).updates rest

theorem Calculator.updates_append (c : Calculator) (a b : List Keystroke) :
    c.updates (a ++ b) = c.updates a ++ (c.pressAll a).updates b := by
  induction a generalizing c with
  | nil => rfl
  | cons key rest ih =>
    simp only [List.cons_append, updates, ih]
    rfl

/-- Updates published one after another. -/
def Stream.publishAll (s : Stream) (updates : List Update) : Stream := updates.foldl publish s

namespace Service

/-! ## Rounds -/

/-- **One round of the task**: what it has handled, and the service after it. -/
def round (s : Service) : List Keystroke × Service :=
  match s.phase with
  | .running _ =>
    if s.shutdownRequested then ([], { s with phase := .finished, queue := [] })
    else
      match s.queue with
      | key :: rest => ([key], { s.handle key with queue := rest, phase := .running true })
      | [] => ([], { s with phase := if s.anyHandle then .running true else .finished })
  | _ => ([], s)

/-- Rounds one right after the other. -/
def rounds : Nat → Service → List Keystroke × Service
  | 0, s => ([], s)
  | n + 1, s => (s.round.1 ++ (rounds n s.round.2).1, (rounds n s.round.2).2)

theorem exists_of_isRunning {s : Service} (h : s.isRunning) :
    ∃ announced, s.phase = .running announced := by
  unfold isRunning at h
  cases hp : s.phase with
  | running announced => exact ⟨announced, rfl⟩
  | _ => simp [hp] at h

theorem round_of_not_running {s : Service} (h : s.isRunning = false) : s.round = ([], s) := by
  unfold isRunning at h
  unfold round
  cases hp : s.phase with
  | running announced => simp [hp] at h
  | _ => rfl

section Running

variable {s : Service} {announced : Bool}

theorem round_shutdown (h : s.phase = .running announced) (asked : s.shutdownRequested) :
    s.round = ([], { s with phase := .finished, queue := [] }) := by
  simp [round, h, asked]

theorem round_cons (h : s.phase = .running announced) (unasked : s.shutdownRequested = false)
    {key : Keystroke} {rest : List Keystroke} (queue : s.queue = key :: rest) :
    s.round = ([key], { s.handle key with queue := rest, phase := .running true }) := by
  simp [round, h, unasked, queue]

theorem round_nil (h : s.phase = .running announced) (unasked : s.shutdownRequested = false)
    (queue : s.queue = []) :
    s.round = ([], { s with phase := if s.anyHandle then .running true else .finished }) := by
  simp [round, h, unasked, queue]

end Running

theorem rounds_of_not_running {s : Service} (h : s.isRunning = false) (n : Nat) :
    rounds n s = ([], s) := by
  induction n with
  | zero => rfl
  | succ n ih => simp only [rounds, round_of_not_running h, ih, List.append_nil]

/-! ## The turn in closed form -/

/-- Handling keystrokes changes the calculator, and publishes; nothing else. -/
theorem foldl_handle (s : Service) (keys : List Keystroke) :
    keys.foldl handle s =
      { s with
        calculator := s.calculator.pressAll keys
        stream := s.stream.publishAll (s.calculator.updates keys) } := by
  induction keys generalizing s with
  | nil => rfl
  | cons key rest ih =>
    rw [List.foldl_cons, ih]
    rfl

theorem turn_of_not_running {s : Service} (h : s.isRunning = false) :
    s.turn = s ∧ s.upcoming = [] := by
  unfold isRunning at h
  unfold turn upcoming
  cases hp : s.phase with
  | running announced => simp [hp] at h
  | _ => exact ⟨rfl, rfl⟩

theorem turn_of_running {s : Service} {announced : Bool} (h : s.phase = .running announced) :
    s.turn =
      { s with
        calculator := s.calculator.pressAll s.upcoming
        stream := s.stream.publishAll (s.calculator.updates s.upcoming)
        queue := []
        phase := if s.endsNext then .finished else .running true } := by
  unfold turn
  rw [h]
  simp only [foldl_handle]

/-- **A turn is the rounds it takes to empty the queue**, and one more. -/
theorem rounds_eq_turn (s : Service) : rounds (s.queue.length + 1) s = (s.upcoming, s.turn) := by
  cases hrun : s.isRunning with
  | false =>
    obtain ⟨hturn, hupcoming⟩ := turn_of_not_running hrun
    rw [rounds_of_not_running hrun, hturn, hupcoming]
  | true =>
    obtain ⟨announced, hp⟩ := exists_of_isRunning hrun
    rw [turn_of_running hp]
    cases hshut : s.shutdownRequested with
    | true =>
      rw [rounds, round_shutdown hp hshut, rounds_of_not_running rfl]
      simp only [upcoming, endsNext, hp, hshut]
      rfl
    | false =>
      -- the queue gets shorter by a keystroke a round; the calculator and the stream follow it
      generalize hq : s.queue = keys
      induction keys generalizing s announced with
      | nil =>
        simp only [List.length_nil, rounds, round_nil hp hshut hq, upcoming, endsNext, hp, hshut,
          hq]
        cases s.anyHandle <;> rfl
      | cons key rest ih =>
        have hnext := ih { s.handle key with queue := rest, phase := .running true }
          rfl true rfl hshut rfl
        rw [List.length_cons, rounds, round_cons hp hshut hq, hnext]
        simp only [upcoming, endsNext, hp, hshut, hq, handle]
        rfl

/-! ## What a round tells the log -/

/-- That the task starts, unless it was told before. -/
def openingEvents (announced : Bool) (c : Calculator) : List Log.Event :=
  if announced then [] else [startingEvent c]

/-- **What one round tells the log.** -/
def roundEvents (s : Service) : List Log.Event :=
  match s.phase with
  | .running announced =>
    openingEvents announced s.calculator ++ s.calculator.eventsAll s.round.1 ++
      if s.round.2.isRunning then [] else [s.endingEvent, stoppedEvent s.round.2.calculator]
  | _ => []

/-- What rounds tell the log, one right after the other. -/
def roundsEvents : Nat → Service → List Log.Event
  | 0, _ => []
  | n + 1, s => s.roundEvents ++ roundsEvents n s.round.2

theorem roundEvents_of_not_running {s : Service} (h : s.isRunning = false) :
    s.roundEvents = [] := by
  unfold isRunning at h
  unfold roundEvents
  cases hp : s.phase with
  | running announced => simp [hp] at h
  | _ => rfl

theorem roundsEvents_of_not_running {s : Service} (h : s.isRunning = false) (n : Nat) :
    roundsEvents n s = [] := by
  induction n with
  | zero => rfl
  | succ n ih => rw [roundsEvents, roundEvents_of_not_running h, round_of_not_running h, ih]; rfl

section Running

variable {s : Service} {announced : Bool}

theorem roundEvents_shutdown (h : s.phase = .running announced) (asked : s.shutdownRequested) :
    s.roundEvents =
      openingEvents announced s.calculator ++ [s.endingEvent, stoppedEvent s.calculator] := by
  simp [roundEvents, h, round_shutdown h asked, isRunning, Calculator.eventsAll]

theorem roundEvents_cons (h : s.phase = .running announced) (unasked : s.shutdownRequested = false)
    {key : Keystroke} {rest : List Keystroke} (queue : s.queue = key :: rest) :
    s.roundEvents = openingEvents announced s.calculator ++ s.calculator.events key := by
  simp [roundEvents, h, round_cons h unasked queue, isRunning, Calculator.eventsAll]

theorem roundEvents_nil (h : s.phase = .running announced) (unasked : s.shutdownRequested = false)
    (queue : s.queue = []) :
    s.roundEvents = openingEvents announced s.calculator ++
      if s.anyHandle then [] else [s.endingEvent, stoppedEvent s.calculator] := by
  rw [roundEvents, h, round_nil h unasked queue]
  cases s.anyHandle <;> simp [isRunning, Calculator.eventsAll]

theorem turnEvents_of_running (h : s.phase = .running announced) :
    s.turnEvents = openingEvents announced s.calculator ++ s.calculator.eventsAll s.upcoming ++
      if s.endsNext then [s.endingEvent, stoppedEvent (s.calculator.pressAll s.upcoming)]
      else [] := by
  rw [turnEvents, h, turn_of_running h]
  rfl

end Running

theorem turnEvents_of_not_running {s : Service} (h : s.isRunning = false) : s.turnEvents = [] := by
  unfold isRunning at h
  unfold turnEvents
  cases hp : s.phase with
  | running announced => simp [hp] at h
  | _ => rfl

/-- **A turn tells what the rounds tell** that it takes to empty the queue, and one more. -/
theorem roundsEvents_eq_turnEvents (s : Service) :
    roundsEvents (s.queue.length + 1) s = s.turnEvents := by
  cases hrun : s.isRunning with
  | false => rw [roundsEvents_of_not_running hrun, turnEvents_of_not_running hrun]
  | true =>
    obtain ⟨announced, hp⟩ := exists_of_isRunning hrun
    rw [turnEvents_of_running hp]
    cases hshut : s.shutdownRequested with
    | true =>
      rw [roundsEvents, roundEvents_shutdown hp hshut, round_shutdown hp hshut,
        roundsEvents_of_not_running rfl]
      simp [upcoming, endsNext, hp, hshut, Calculator.eventsAll, Calculator.pressAll]
    | false =>
      generalize hq : s.queue = keys
      induction keys generalizing s announced with
      | nil =>
        rw [List.length_nil, roundsEvents, roundEvents_nil hp hshut hq, roundsEvents]
        cases hany : s.anyHandle <;>
          simp [upcoming, endsNext, hp, hshut, hq, hany, Calculator.eventsAll, Calculator.pressAll]
      | cons key rest ih =>
        have hnext := ih { s.handle key with queue := rest, phase := .running true }
          rfl true rfl hshut rfl
        rw [List.length_cons, roundsEvents, roundEvents_cons hp hshut hq, round_cons hp hshut hq,
          hnext]
        simp [upcoming, endsNext, hp, hshut, hq, handle, anyHandle, openingEvents, endingEvent,
          Calculator.eventsAll, Calculator.pressAll]

end Service

end PocketCalc
