import PocketCalc.Proofs.Service.Schedule

/-!
# Properties that a service keeps

Actions and moves are made of a few things: a keystroke is queued, the task has a round, a handle or
a subscription is used, the task is started, dropped, or asked for its calculator. A property of a
service, of its two histories and of what the log was told is **kept** (`Kept`) when each of these
keeps it.

**The law** (`Kept.step`, `Kept.next`, `Kept.run`): then every action, every move and every schedule
keeps it. A turn is rounds, and needs nothing of its own (`Kept.turn`).

Beside that stands what only a few actions change at all (`Untouched`).

**What it does not establish.** That any property is kept: see `kept_inOrder` and `kept_recorded`.
-/

namespace PocketCalc.Service

variable {s : Service}

/-! ## Sending -/

theorem trySend_eq_ok {key : Keystroke} {after : Service} (h : s.trySend key = .ok after) :
    s.phase.isOpen ∧ s.queue.length < s.capacity ∧
      after = { s with queue := s.queue ++ [key] } := by
  unfold trySend at h
  split at h
  next => cases h
  next hopen =>
    split at h
    next => cases h
    next hroom =>
      cases h
      exact ⟨by simpa using hopen, Nat.lt_of_not_le hroom, rfl⟩

/-- How a send with waiting ends: at once, or after a turn, or not. -/
theorem send_cases (s : Service) (key : Keystroke) :
    (∃ after, s.trySend key = .ok after ∧ s.send key = (.accepted, after)) ∨
      (s.trySend key = .error .closed ∧ s.send key = (.closed, s)) ∨
      (s.trySend key = .error .full ∧
        ((∃ after, s.turn.trySend key = .ok after ∧ s.send key = (.accepted, after)) ∨
          (s.isRunning ∧ s.send key = (.closed, s.turn)) ∨
          (s.isRunning = false ∧ s.send key = (.givenUp, s)))) := by
  unfold send
  cases htry : s.trySend key with
  | ok after => exact .inl ⟨after, rfl, rfl⟩
  | error e =>
    cases e with
    | closed => exact .inr (.inl ⟨rfl, rfl⟩)
    | full =>
      refine .inr (.inr ⟨rfl, ?_⟩)
      cases hrun : s.isRunning with
      | false => exact .inr (.inr ⟨rfl, rfl⟩)
      | true =>
        cases hturn : s.turn.trySend key with
        | ok after => exact .inl ⟨after, rfl, rfl⟩
        | error e => exact .inr (.inl ⟨rfl, rfl⟩)

/-! ## What the task leaves alone -/

/-- **What only actions of its own change**: the handles, the request to shut down and the
cursors. -/
structure Untouched (s after : Service) : Prop where
  handles : after.handles = s.handles
  shutdown : after.shutdownRequested = s.shutdownRequested
  cursors : after.cursors = s.cursors

theorem Untouched.refl (s : Service) : Untouched s s := ⟨rfl, rfl, rfl⟩

theorem Untouched.trans {t u : Service} (h : Untouched s t) (h' : Untouched t u) : Untouched s u :=
  ⟨h'.handles.trans h.handles, h'.shutdown.trans h.shutdown, h'.cursors.trans h.cursors⟩

theorem untouched_round (s : Service) : Untouched s s.round.2 := by
  unfold Service.round
  split
  · split
    · exact ⟨rfl, rfl, rfl⟩
    · split <;> exact ⟨rfl, rfl, rfl⟩
  · exact .refl s

theorem untouched_turn (s : Service) : Untouched s s.turn := by
  cases hrun : s.isRunning with
  | false =>
    rw [(turn_of_not_running hrun).1]
    exact .refl s
  | true =>
    obtain ⟨announced, hp⟩ := exists_of_isRunning hrun
    rw [turn_of_running hp]
    exact ⟨rfl, rfl, rfl⟩

theorem untouched_trySend {key : Keystroke} {after : Service} (h : s.trySend key = .ok after) :
    Untouched s after := by
  obtain ⟨-, -, rfl⟩ := trySend_eq_ok h
  exact ⟨rfl, rfl, rfl⟩

theorem untouched_send (s : Service) (key : Keystroke) : Untouched s (s.send key).2 := by
  rcases s.send_cases key with ⟨after, htry, hsend⟩ | ⟨-, hsend⟩ | ⟨-, hsend⟩
  · rw [hsend]
    exact untouched_trySend htry
  · rw [hsend]
    exact .refl s
  · rcases hsend with ⟨after, hturn, hsend⟩ | ⟨-, hsend⟩ | ⟨-, hsend⟩
    · rw [hsend]
      exact s.untouched_turn.trans (untouched_trySend hturn)
    · rw [hsend]
      exact s.untouched_turn
    · rw [hsend]
      exact .refl s

theorem untouched_start (s : Service) : Untouched s s.start.2 := by
  unfold Service.start
  split <;> exact ⟨rfl, rfl, rfl⟩

theorem untouched_stop (s : Service) : Untouched s s.stop := by
  unfold Service.stop
  split <;> exact ⟨rfl, rfl, rfl⟩

theorem untouched_collect (s : Service) : Untouched s s.collect.2 := by
  unfold Service.collect
  split <;> exact ⟨rfl, rfl, rfl⟩

/-- The action uses a handle or a subscription for something else than a keystroke. -/
def Action.touches : Action → Bool
  | .clone _ => true
  | .drop _ => true
  | .subscribe _ => true
  | .receive _ => true
  | .shutdown _ => true
  | _ => false

theorem untouched_act (s : Service) {a : Action} (h : a.touches = false) :
    Untouched s (s.act a).2 := by
  cases a with
  | trySend handle key =>
    rw [act]
    cases htry : s.trySend key with
    | ok after => exact untouched_trySend htry
    | error e => exact .refl s
  | send handle key =>
    have hafter := s.untouched_send key
    rw [act]
    obtain ⟨sent, after, hsend⟩ : ∃ sent after, s.send key = (sent, after) := ⟨_, _, rfl⟩
    rw [hsend] at hafter ⊢
    cases sent <;> exact hafter
  | start => exact s.untouched_start
  | stop => exact s.untouched_stop
  | turn => exact s.untouched_turn
  | collect => exact s.untouched_collect
  | _ => cases h

theorem Untouched.holds {after : Service} {handle : Nat} (h : s.Untouched after)
    (held : s.holds handle) : after.holds handle := by
  rw [Service.holds, h.handles]
  exact held

/-- **Nothing but its own drop lets a handle go.** -/
theorem holds_step {handle : Nat} (held : s.holds handle) {a : Action}
    (other : a ≠ .drop handle) : (s.step a).2.holds handle := by
  unfold step
  split
  · exact held
  · cases a with
    | clone source =>
      have hlt : handle < s.handles.length := by
        refine Nat.lt_of_not_le fun hge => ?_
        rw [holds, List.getElem?_eq_none hge] at held
        cases held
      show ((s.handles ++ [true])[handle]?.getD false) = true
      rw [List.getElem?_append_left hlt]
      exact held
    | drop dropped =>
      have hne : dropped ≠ handle := fun heq => other (by rw [heq])
      show ((s.handles.set dropped false)[handle]?.getD false) = true
      rw [List.getElem?_set_ne hne]
      exact held
    | subscribe source => exact held
    | receive i => exact held
    | shutdown source => exact held
    | _ => exact (s.untouched_act rfl).holds held

/-! ## What is kept -/

theorem anyHandle_of_holds {handle : Nat} (held : s.holds handle) : s.anyHandle := by
  unfold holds at held
  cases hget : s.handles[handle]? with
  | none => rw [hget] at held; cases held
  | some b =>
    rw [hget] at held
    exact List.any_eq_true.mpr ⟨b, List.mem_of_getElem? hget, held⟩

/-- **A property that is kept**, whatever an action or a move is made of. Who makes another handle or
asks for a shutdown holds one. -/
structure Kept
    (P : List Keystroke → List Keystroke → List Log.Event → Service → Prop) : Prop where
  accept : ∀ {accepted handled log s}, P accepted handled log s →
    ∀ {key after}, s.trySend key = .ok after → P (accepted ++ [key]) handled log after
  round : ∀ {accepted handled log s}, P accepted handled log s →
    P accepted (handled ++ s.round.1) (log ++ s.roundEvents) s.round.2
  clone : ∀ {accepted handled log s}, P accepted handled log s → s.anyHandle →
    P accepted handled log s.clone.2
  drop : ∀ {accepted handled log s}, P accepted handled log s →
    ∀ handle, P accepted handled log (s.drop handle)
  subscribe : ∀ {accepted handled log s}, P accepted handled log s →
    P accepted handled log s.subscribe.2
  receive : ∀ {accepted handled log s}, P accepted handled log s →
    ∀ subscription, P accepted handled log (s.receive subscription).2
  requestShutdown : ∀ {accepted handled log s}, P accepted handled log s → s.anyHandle →
    P accepted handled log s.requestShutdown
  start : ∀ {accepted handled log s}, P accepted handled log s → P accepted handled log s.start.2
  stop : ∀ {accepted handled log s}, P accepted handled log s → P accepted handled log s.stop
  collect : ∀ {accepted handled log s}, P accepted handled log s →
    P accepted handled log s.collect.2

namespace Kept

variable {P : List Keystroke → List Keystroke → List Log.Event → Service → Prop}
  {accepted handled : List Keystroke} {log : List Log.Event}

theorem rounds (kept : Kept P) (h : P accepted handled log s) (n : Nat) :
    P accepted (handled ++ (Service.rounds n s).1) (log ++ roundsEvents n s)
      (Service.rounds n s).2 := by
  induction n generalizing s handled log with
  | zero => simpa [Service.rounds, roundsEvents] using h
  | succ n ih =>
    have := ih (kept.round h)
    rwa [List.append_assoc, List.append_assoc] at this

theorem turn (kept : Kept P) (log : List Log.Event) (h : P accepted handled log s) :
    P accepted (handled ++ s.upcoming) (log ++ s.turnEvents) s.turn := by
  have := kept.rounds h (s.queue.length + 1)
  rwa [rounds_eq_turn, roundsEvents_eq_turnEvents] at this

/-- **Every action keeps it.** -/
theorem step (kept : Kept P) (log : List Log.Event) (h : P accepted handled log s) (a : Action) :
    P (accepted ++ (s.step a).1.keystrokes a) (handled ++ s.stepHandled a) (log ++ s.stepEvents a)
      (s.step a).2 := by
  unfold Service.step stepHandled stepEvents takesTurn
  by_cases lacks : s.lacksHandle a
  · have hnone : Answer.keystrokes a .noHandle = [] := by cases a <;> rfl
    simpa [lacks, hnone] using h
  · have held : ∀ handle, a.handle? = some handle → s.anyHandle := by
      intro handle ha
      have : s.holds handle = true := by simpa [lacksHandle, ha] using lacks
      exact anyHandle_of_holds this
    cases a with
    | trySend handle key =>
      cases htry : s.trySend key with
      | ok after => simpa [lacks, act, htry, Answer.keystrokes] using kept.accept h htry
      | error e => simpa [lacks, act, htry, Answer.keystrokes] using h
    | send handle key =>
      rcases s.send_cases key with ⟨after, htry, hsend⟩ | ⟨htry, hsend⟩ | ⟨htry, hsend⟩
      · simpa [lacks, act, htry, hsend, Answer.keystrokes] using kept.accept h htry
      · simpa [lacks, act, htry, hsend, Answer.keystrokes] using h
      · have hturn := kept.turn log h
        rcases hsend with ⟨after, hroom, hsend⟩ | ⟨_, hsend⟩ | ⟨hidle, hsend⟩
        · simpa [lacks, act, htry, hsend, Answer.keystrokes] using kept.accept hturn hroom
        · simpa [lacks, act, htry, hsend, Answer.keystrokes] using hturn
        · rw [(turn_of_not_running hidle).1] at hturn
          simpa [lacks, act, htry, hsend, Answer.keystrokes] using hturn
    | clone handle => simpa [lacks, act, Answer.keystrokes] using kept.clone h (held handle rfl)
    | drop handle => simpa [lacks, act, Answer.keystrokes] using kept.drop h handle
    | subscribe handle => simpa [lacks, act, Answer.keystrokes] using kept.subscribe h
    | receive i => simpa [lacks, act, Answer.keystrokes] using kept.receive h i
    | shutdown handle =>
      simpa [lacks, act, Answer.keystrokes] using kept.requestShutdown h (held handle rfl)
    | start => simpa [lacks, act, Answer.keystrokes] using kept.start h
    | stop => simpa [lacks, act, Answer.keystrokes] using kept.stop h
    | turn => simpa [lacks, act, Answer.keystrokes] using kept.turn log h
    | collect => simpa [lacks, act, Answer.keystrokes] using kept.collect h

end Kept

/-! ## Schedules -/

/-- The move is about a send with waiting. -/
def Move.isWait : Move → Bool
  | .act _ _ => false
  | .round => false
  | _ => true

namespace Moment

theorem untouched_attempt (m : Moment) (name : Nat) (key : Keystroke) :
    Untouched m.service (m.attempt name key).service := by
  unfold Moment.attempt
  split
  next htry => exact untouched_trySend htry
  · exact .refl m.service
  · exact .refl m.service

theorem handled_attempt (m : Moment) (name : Nat) (key : Keystroke) :
    (m.attempt name key).handled = m.handled := by
  unfold attempt
  split <;> rfl

/-- **A move about a send with waiting** looks for room, or leaves everything but what waits as it
is. -/
theorem next_of_isWait (m : Moment) {move : Move} (wait : move.isWait) :
    ∃ waiting, m.next move = { m with waiting } ∨
      ∃ name key, m.next move = { m with waiting }.attempt name key := by
  cases move with
  | beginSend name handle key =>
    refine ⟨m.waiting, ?_⟩
    rw [next]
    split
    · exact .inr ⟨name, key, rfl⟩
    · exact .inl rfl
  | retry name =>
    rw [next]
    split
    next send _ => exact ⟨(m.leave name).waiting, .inr ⟨send.1, send.2, rfl⟩⟩
    next => exact ⟨m.waiting, .inl rfl⟩
  | giveUp name => exact ⟨(m.leave name).waiting, .inl rfl⟩
  | _ => cases wait

theorem untouched_next (m : Moment) {move : Move} (wait : move.isWait) :
    Untouched m.service (m.next move).service := by
  obtain ⟨waiting, h | ⟨name, key, h⟩⟩ := m.next_of_isWait wait
  · rw [h]
    exact .refl m.service
  · rw [h]
    exact untouched_attempt { m with waiting } name key

theorem handled_next_of_isWait (m : Moment) {move : Move} (wait : move.isWait) :
    (m.next move).handled = m.handled := by
  obtain ⟨waiting, h | ⟨name, key, h⟩⟩ := m.next_of_isWait wait
  · rw [h]
  · rw [h, handled_attempt]

end Moment

namespace Kept

variable {P : List Keystroke → List Keystroke → List Log.Event → Service → Prop}
  {log : List Log.Event} {m : Moment}

theorem attempt (kept : Kept P) (h : P m.acceptedKeys m.handled log m.service) (name : Nat)
    (key : Keystroke) :
    P (m.attempt name key).acceptedKeys (m.attempt name key).handled log
      (m.attempt name key).service := by
  unfold Moment.attempt
  cases htry : m.service.trySend key with
  | ok after =>
    show P ((m.accepted ++ [(name, key)]).map Prod.snd) _ _ _
    rw [List.map_append]
    exact kept.accept h htry
  | error e => cases e <;> exact h

/-- **Every move keeps it.** -/
theorem next (kept : Kept P) (log : List Log.Event)
    (h : P m.acceptedKeys m.handled log m.service) (move : Move) :
    P (m.next move).acceptedKeys (m.next move).handled (log ++ m.moveEvents move)
      (m.next move).service := by
  cases hwait : move.isWait with
  | true =>
    have silent : m.moveEvents move = [] := by cases move <;> first | rfl | cases hwait
    rw [silent, List.append_nil]
    obtain ⟨waiting, hnext | ⟨name, key, hnext⟩⟩ := m.next_of_isWait hwait
    · rw [hnext]
      exact h
    · rw [hnext]
      exact kept.attempt (m := { m with waiting }) h name key
  | false =>
    cases move with
    | act name a =>
      have := kept.step log h a
      simpa [Moment.next, Moment.moveEvents, Moment.acceptedKeys, Function.comp_def] using this
    | round => exact kept.round h
    | _ => cases hwait

/-- **Every schedule keeps it.** -/
theorem run (kept : Kept P) (log : List Log.Event)
    (h : P m.acceptedKeys m.handled log m.service) (moves : List Move) :
    P (m.run moves).acceptedKeys (m.run moves).handled (log ++ m.told moves)
      (m.run moves).service := by
  induction moves generalizing m log with
  | nil =>
    rw [Moment.told, List.append_nil]
    exact h
  | cons move rest ih =>
    have hrest := ih _ (kept.next log h move)
    rw [List.append_assoc] at hrest
    exact hrest

end Kept

end PocketCalc.Service
