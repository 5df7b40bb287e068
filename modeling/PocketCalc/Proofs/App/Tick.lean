import PocketCalc.App
import PocketCalc.Proofs.Service.Subscription

/-!
# The screen catches up

The program on the screen runs beside its service: keys are pressed and ticks come, and meanwhile
the task has its rounds, and whoever else has a handle uses it. All that can happen is a `Move`, and
where it has come to is a `Session`: the program, and the keystrokes that its service has handled.

A session is **in step** (`Session.InStep`) when the service is in order, and the display shows the
update that stands right before the program's own cursor.

**The law** (`InStep.tick`, `InStep.next`, `InStep.run`): a tick brings the cursor to the end, so
that the newest update is shown, and every move and every run of moves keeps a session in step.

**What it does not establish.** That ticks come, or that the task gets rounds between them.
-/

namespace PocketCalc.App

/-! ## Sessions -/

/-- **What can happen next.** The log may be told anything by what goes on beside the program. -/
inductive Move where
  | input (i : Input)
  /-- The service's task has one round. -/
  | round (told : List Log.Event)
  /-- Something else is done with the service. -/
  | other (a : Service.Action) (told : List Log.Event)

/-- The keystrokes that an input lets the task handle. -/
def Input.handled (a : App) : Input → List Keystroke
  | .turn => a.service.upcoming
  | _ => []

/-- **Where things have come to.** -/
structure Session where
  app : App
  /-- The keystrokes that the service has handled, in order. -/
  handled : List Keystroke := []

namespace Session

/-- **One move.** Nobody else reads the program's own subscription: such a move does nothing. -/
def next (s : Session) : Move → Session
  | .input i => { app := s.app.step i, handled := s.handled ++ i.handled s.app }
  | .round told =>
    { app := { s.app with service := s.app.service.round.2, log := s.app.log.recordAll told }
      handled := s.handled ++ s.app.service.round.1 }
  | .other a told =>
    if a = .receive s.app.subscription then s
    else
      { app := { s.app with service := (s.app.service.step a).2, log := s.app.log.recordAll told }
        handled := s.handled ++ s.app.service.stepHandled a }

/-- Moves one after another. -/
def run (s : Session) (moves : List Move) : Session := moves.foldl next s

end Session

/-! ## Keys -/

/-- **What becomes of a keystroke**: it is queued, or dropped with a word to the log, or it ends the
program. In each case the keypad shows it as pressed. -/
theorem send_cases (a : App) (key : Keystroke) :
    let pressed := { a with keypad := a.keypad.press key }
    (∃ after, a.service.trySend key = .ok after ∧ a.send key = { pressed with service := after }) ∨
      (a.service.trySend key = .error .full ∧
        a.send key = { pressed with log := a.log.record (droppedEvent key) }) ∨
      (a.service.trySend key = .error .closed ∧ a.send key = { pressed with quitting := true }) := by
  simp only [send]
  cases a.service.trySend key with
  | ok after => exact .inl ⟨after, rfl, rfl⟩
  | error e =>
    cases e with
    | full => exact .inr (.inl ⟨rfl, rfl⟩)
    | closed => exact .inr (.inr ⟨rfl, rfl⟩)

/-- A keystroke is queued, or the service stays as it is. -/
theorem service_send (a : App) (key : Keystroke) :
    a.service.trySend key = .ok (a.send key).service ∨ (a.send key).service = a.service := by
  obtain ⟨after, queued, h⟩ | ⟨-, h⟩ | ⟨-, h⟩ := a.send_cases key
  · rw [h]
    exact .inl queued
  · rw [h]
    exact .inr rfl
  · rw [h]
    exact .inr rfl

theorem display_send (a : App) (key : Keystroke) : (a.send key).display = a.display := by
  obtain ⟨_, -, h⟩ | ⟨-, h⟩ | ⟨-, h⟩ := a.send_cases key <;> rw [h]

theorem subscription_send (a : App) (key : Keystroke) :
    (a.send key).subscription = a.subscription := by
  obtain ⟨_, -, h⟩ | ⟨-, h⟩ | ⟨-, h⟩ := a.send_cases key <;> rw [h]

theorem keypad_send (a : App) (key : Keystroke) : (a.send key).keypad = a.keypad.press key := by
  obtain ⟨_, -, h⟩ | ⟨-, h⟩ | ⟨-, h⟩ := a.send_cases key <;> rw [h]

/-- An action puts a keystroke into the queue, or leaves the service as it is. -/
theorem service_perform (a : App) (action : Action) :
    (∃ key, a.service.trySend key = .ok (a.perform action).service) ∨
      (a.perform action).service = a.service := by
  cases action with
  | calculate key => exact (a.service_send key).imp_left fun queued => ⟨key, queued⟩
  | _ => exact .inr rfl

theorem display_perform (a : App) (action : Action) : (a.perform action).display = a.display := by
  cases action with
  | calculate key => exact a.display_send key
  | _ => rfl

theorem subscription_perform (a : App) (action : Action) :
    (a.perform action).subscription = a.subscription := by
  cases action with
  | calculate key => exact a.subscription_send key
  | _ => rfl

/-- An action leaves handles and subscriptions alone. -/
theorem untouched_perform (a : App) (action : Action) :
    a.service.Untouched (a.perform action).service := by
  obtain ⟨key, queued⟩ | same := a.service_perform action
  · exact Service.untouched_trySend queued
  · rw [same]
    exact .refl a.service

theorem untouched_press (a : App) (k : Key) : a.service.Untouched (a.press k).2.service :=
  untouched_perform { a with keymap := (a.keymap.resolve k).2 } (a.keymap.resolve k).1

theorem display_press (a : App) (k : Key) : (a.press k).2.display = a.display :=
  display_perform { a with keymap := (a.keymap.resolve k).2 } (a.keymap.resolve k).1

theorem subscription_press (a : App) (k : Key) : (a.press k).2.subscription = a.subscription :=
  subscription_perform { a with keymap := (a.keymap.resolve k).2 } (a.keymap.resolve k).1

/-! ## Ticks -/

/-- The display shows the last update that came to it. -/
theorem display_foldl_accept (a : App) (front : List Stream.Receipt) (u : Update) :
    ((front ++ [Stream.Receipt.update u]).foldl accept a).display = ⟨u⟩ := by
  rw [List.foldl_append]
  rfl

theorem subscription_tick (a : App) : a.tick.subscription = a.subscription := by
  have told : ∀ (receipts : List Stream.Receipt) (b : App),
      (receipts.foldl accept b).subscription = b.subscription := by
    intro receipts
    induction receipts with
    | nil => exact fun _ => rfl
    | cons receipt rest ih => exact fun b => (ih _).trans (by cases receipt <;> rfl)
  exact told _ a

/-- A tick moves the program's cursor, and changes nothing else of the service. -/
theorem service_tick (a : App) {read : Nat}
    (place : a.service.cursors[a.subscription]? = some read) :
    a.tick.service =
      { a.service with
        cursors := a.service.cursors.set a.subscription (a.service.stream.drain read).2 } := by
  rw [tick, drain, place]
  rfl

theorem display_tick (a : App) {read : Nat}
    (place : a.service.cursors[a.subscription]? = some read) :
    a.tick.display = ((a.service.stream.drain read).1.foldl accept a).display := by
  rw [tick, drain, place]
  rfl

/-! ## In order -/

section InOrder

variable {initial : Service} {accepted handled : List Keystroke}

/-- An action keeps the service in order. -/
theorem order_perform {a : App} (h : Service.InOrder initial accepted handled a.service)
    (action : Action) :
    ∃ accepted, Service.InOrder initial accepted handled (a.perform action).service := by
  obtain ⟨key, queued⟩ | same := a.service_perform action
  · exact ⟨_, h.accept queued⟩
  · rw [same]
    exact ⟨accepted, h⟩

/-- **Every move keeps the service in order.** -/
theorem Session.order_next {s : Session}
    (h : Service.InOrder initial accepted s.handled s.app.service) (move : Move) :
    ∃ accepted,
      Service.InOrder initial accepted (s.next move).handled (s.next move).app.service := by
  cases move with
  | input i =>
    -- an input that is no turn adds nothing to what was handled
    have quiet : ∀ {service}, (∃ accepted, Service.InOrder initial accepted s.handled service) →
        ∃ accepted, Service.InOrder initial accepted (s.handled ++ []) service := by
      intro service order
      rwa [List.append_nil]
    cases i with
    | key k =>
      exact quiet (order_perform (a := { s.app with keymap := (s.app.keymap.resolve k).2 }) h
        (s.app.keymap.resolve k).1)
    | tick => exact quiet ⟨accepted, h.frame rfl rfl rfl rfl id⟩
    | turn => exact ⟨accepted, h.turn⟩
    | start => exact quiet ⟨accepted, h.start⟩
    | stop => exact quiet ⟨accepted, h.stop⟩
    | shutdown => exact quiet ⟨accepted, h.frame rfl rfl rfl rfl id⟩
  | round told => exact ⟨accepted, h.round⟩
  | other a told =>
    rw [Session.next]
    split
    · exact ⟨accepted, h⟩
    · exact ⟨_, h.step a⟩

end InOrder

/-! ## In step -/

namespace Session

/-- **A session is in step**: the service is in order, and the display shows what has been read. -/
structure InStep (display : Settings.Display) (capacity : Nat) (s : Session) : Prop where
  order : ∃ accepted,
    Service.InOrder (.new (.fresh display) capacity) accepted s.handled s.app.service
  /-- The cursor stands behind the update that is shown. -/
  shown : ∃ read ≤ s.handled.length, s.app.service.cursors[s.app.subscription]? = some read ∧
    s.app.display.shown = (Calculator.fresh display).updateAfter s.handled read

variable {display : Settings.Display} {capacity : Nat} {s : Session}

/-- What moves neither the cursor nor the display keeps a session in step. -/
theorem InStep.frame (h : s.InStep display capacity) {after : Session}
    (order : ∃ accepted,
      Service.InOrder (.new (.fresh display) capacity) accepted after.handled after.app.service)
    (cursors : ∀ read, s.app.service.cursors[s.app.subscription]? = some read →
      after.app.service.cursors[after.app.subscription]? = some read)
    (handled : s.handled <+: after.handled) (same : after.app.display = s.app.display) :
    after.InStep display capacity := by
  obtain ⟨read, inside, place, shown⟩ := h.shown
  refine ⟨order, read, inside.trans handled.length_le, cursors read place, ?_⟩
  obtain ⟨more, hmore⟩ := handled
  rw [same, shown, ← hmore, Calculator.updateAfter_append _ inside]

/-- What the service does beside its subscriptions keeps a session in step. -/
theorem InStep.beside (h : s.InStep display capacity) {after : Session}
    (order : ∃ accepted,
      Service.InOrder (.new (.fresh display) capacity) accepted after.handled after.app.service)
    (cursors : after.app.service.cursors = s.app.service.cursors)
    (own : after.app.subscription = s.app.subscription)
    (handled : s.handled <+: after.handled) (same : after.app.display = s.app.display) :
    after.InStep display capacity := by
  refine h.frame order ?_ handled same
  intro read place
  rw [cursors, own, place]

/-- **A tick brings the newest update to the display**, and the cursor to the end. -/
theorem InStep.caughtUp (h : s.InStep display capacity) :
    s.app.tick.display.shown = (Calculator.fresh display).updateAfter s.handled s.handled.length ∧
      s.app.tick.service.cursors[s.app.subscription]? = some s.handled.length := by
  obtain ⟨accepted, horder⟩ := h.order
  obtain ⟨read, inside, place, shown⟩ := h.shown
  have hlength := (Calculator.fresh display).length_updates s.handled
  have hdeep : 0 < s.app.service.stream.depth := by
    rw [horder.depth]
    exact Stream.powerFor_pos _
  constructor
  · rw [display_tick _ place]
    obtain unread | rfl := inside.lt_or_eq
    · rw [← hlength] at unread
      obtain ⟨front, u, hlast, hdrain⟩ := horder.holds.drain_last hdeep unread
      rw [hdrain, display_foldl_accept]
      -- the newest update is the one after all the keystrokes
      rw [List.getLast?_eq_getElem?, hlength, Calculator.getElem?_updates _ (by omega)] at hlast
      rw [Nat.sub_add_cancel (by omega)] at hlast
      exact (Option.some.inj hlast).symm
    · rw [horder.holds.drain_near hlength.ge (by omega), ← hlength, List.drop_length, hlength]
      exact shown
  · have hlt := (List.getElem?_eq_some_iff.mp place).1
    rw [service_tick _ place, List.getElem?_set_self hlt,
      horder.holds.drain_eq (hlength ▸ inside), hlength]

theorem InStep.tick (h : s.InStep display capacity) :
    (s.next (.input .tick)).InStep display capacity := by
  have hhandled : (s.next (.input .tick)).handled = s.handled := List.append_nil _
  obtain ⟨accepted, horder⟩ := h.order
  obtain ⟨hshown, hplace⟩ := h.caughtUp
  constructor
  · exact order_next horder _
  · rw [hhandled]
    refine ⟨_, le_rfl, ?_, hshown⟩
    show s.app.tick.service.cursors[s.app.tick.subscription]? = _
    rw [subscription_tick, hplace]

/-- **Every move keeps a session in step.** -/
theorem InStep.next (h : s.InStep display capacity) (move : Move) :
    (s.next move).InStep display capacity := by
  obtain ⟨accepted, horder⟩ := h.order
  have order := order_next horder move
  cases move with
  | input i =>
    cases i with
    | key k =>
      have hcursors := (s.app.untouched_press k).cursors
      exact h.beside order hcursors (subscription_press s.app k) (List.prefix_append _ _)
        (display_press s.app k)
    | tick => exact h.tick
    | turn =>
      have hcursors := s.app.service.untouched_turn.cursors
      exact h.beside order hcursors rfl (List.prefix_append _ _) rfl
    | start =>
      have hcursors := s.app.service.untouched_start.cursors
      exact h.beside order hcursors rfl (List.prefix_append _ _) rfl
    | stop =>
      have hcursors := s.app.service.untouched_stop.cursors
      exact h.beside order hcursors rfl (List.prefix_append _ _) rfl
    | shutdown => exact h.beside order rfl rfl (List.prefix_append _ _) rfl
  | round told =>
    have hcursors := s.app.service.untouched_round.cursors
    exact h.beside order hcursors rfl (List.prefix_append _ _) rfl
  | other a told =>
    rw [Session.next] at order ⊢
    split at order
    next own => rwa [if_pos own]
    next others =>
      rw [if_neg others]
      refine h.frame order ?_ (List.prefix_append _ _) rfl
      intro read place
      exact Service.getElem?_cursors_step place others

/-- **Every run of moves keeps a session in step.** -/
theorem InStep.run (h : s.InStep display capacity) (moves : List Move) :
    (s.run moves).InStep display capacity := by
  induction moves generalizing s with
  | nil => exact h
  | cons move rest ih => exact ih (h.next move)

/-- A program over a service that has handled nothing is in step with it, whoever else has
subscribed. -/
theorem inStep_new {service : Service} {accepted : List Keystroke}
    (order : Service.InOrder (.new (.fresh display) capacity) accepted [] service)
    (log : Log.Collector) : (Session.mk (.new service log) []).InStep display capacity := by
  refine ⟨⟨accepted, order.frame rfl rfl rfl rfl id⟩, 0, le_rfl, ?_, rfl⟩
  show (service.cursors ++ [service.stream.published])[service.cursors.length]? = some 0
  rw [List.getElem?_concat_length, order.holds.published]
  rfl

end Session

/-! ## The screen -/

/-- **The screen catches up on every tick.** A service was made as the settings want it, and had
handled nothing when the program was made over it; others may have subscribed before. Whatever
happened then, the service has given its calculator exactly what it has handled, and the next tick
ends, after no more readings than the stream remembers updates and one more, with the display showing
what that calculator shows. -/
theorem tick_catches_up (settings : Settings) (before : List Service.Move) (log : Log.Collector)
    (moves : List Move) :
    let made := Service.Moment.run { service := .ofSettings settings } before
    made.handled = [] →
      let s := Session.run { app := .new made.service log } moves
      let calculator := (Calculator.fresh settings.display).pressAll s.handled
      let depth := Stream.powerFor (max settings.queue.capacity.toNat 1)
      s.app.service.calculator = calculator ∧
        (∃ read receipts last, s.app.service.cursors[s.app.subscription]? = some read ∧
          s.app.service.stream.ReadsOn read receipts last ∧ receipts.length ≤ depth + 1 ∧
          s.app.tick.display = (receipts.foldl accept s.app).display) ∧
        s.app.tick.display.shown = .of calculator := by
  intro made untouched s calculator depth
  have hmade : made.InOrder (.new (.fresh settings.display) settings.queue.capacity.toNat) :=
    (show (Service.Moment.mk (.ofSettings settings) [] [] []).InOrder _ from
      Service.inOrder_new _ _).run before
  unfold Service.Moment.InOrder at hmade
  rw [untouched] at hmade
  have h := (Session.inStep_new hmade log).run moves
  obtain ⟨accepted, horder⟩ := h.order
  obtain ⟨read, inside, place, -⟩ := h.shown
  have hlength := (Calculator.fresh settings.display).length_updates s.handled
  refine ⟨horder.calculator, ⟨read, _, _, place, Stream.readsOn_drain _ read, ?_, ?_⟩, ?_⟩
  · have := horder.holds.length_drain_le (hlength ▸ inside)
    rwa [horder.depth] at this
  · exact display_tick _ place
  · rw [h.caughtUp.1, Calculator.updateAfter_length]

/-- With room for one update, and somebody else subscribed first: two are lost before the first tick,
and the third is shown. The other subscription is read meanwhile, and the program's own is not. A key
that finds no room is dropped, and is not shown at the second tick. -/
theorem tick_catches_up_after_lag :
    let settings : Settings := { queue := { capacity := 1 } }
    let before : List Service.Move :=
      [.act 0 (.subscribe 0), .act 0 .start, .act 0 (.trySend 0 (.digit '7'))]
    let log := Log.Collector.new .info 10
    let moves : List Move :=
      [.round [], .input (.key (.char '8')), .round [], .other (.receive 0) [],
        .other (.receive 1) [], .input (.key (.char '9')), .input .turn]
    let more : List Move :=
      [.input .tick, .input (.key (.char '1')), .input (.key (.char '2')), .input .turn]
    let made := Service.Moment.run { service := .ofSettings settings } before
    let s := Session.run { app := .new made.service log } moves
    let later := Session.run { app := .new made.service log } (moves ++ more)
    made.handled = [] ∧ s.app.subscription = 1 ∧
      s.app.display.shown = ⟨['0'], .idle⟩ ∧ s.app.tick.display.shown = ⟨['7', '8', '9'], .idle⟩ ∧
      later.app.tick.display.shown = ⟨['7', '8', '9', '1'], .idle⟩ := by
  intro settings before log moves more made s later
  have untouched : made.handled = [] := by decide
  refine ⟨untouched, by decide, by decide, ?_, ?_⟩
  · rw [(tick_catches_up settings before log moves untouched).2.2]
    decide
  · rw [(tick_catches_up settings before log (moves ++ more) untouched).2.2]
    decide

end PocketCalc.App
