import PocketCalc.Proofs.App.Tick

/-!
# No keystroke is lost silently

An action may come to the program by itself, and not only through a key. What can be done to the
program, or happen beside it, is a `Deed`. As long as nobody drops the handle that the program was
made with, a session is **held** (`Session.Held`): its service is in order, and the handle is there.

**The law** (`Session.Held.after`, `Session.Held.quitting_afterAll`): every deed but the drop of the
handle keeps a session held. In a held session a deed ends the program only if it is a wish to quit,
or a keystroke for a service that has ended (`Deed.Quits`); a tick never does, since updates may come
as long as a handle is there. So a program is to end exactly if one of its deeds ended it.

**What it does not establish.** That the log keeps the word of a dropped keystroke: that is up to its
threshold and its capacity.
-/

namespace PocketCalc

/-! ## Handles -/

namespace Service

variable {s : Service} {handle : Nat}

/-- As long as a handle is there, updates may come. -/
theorem mayPublish_of_holds (held : s.holds handle) : s.mayPublish := by
  rw [mayPublish, anyHandle_of_holds held, Bool.or_true]

/-- No reading finds that none can come. -/
theorem receive_ne_closed (may : s.mayPublish) (subscription : Nat) :
    (s.receive subscription).1 ≠ .closed := by
  show Received.of s.mayPublish (s.stream.receive _).1 ≠ .closed
  rw [may]
  cases (s.stream.receive (s.cursors[subscription]?.getD s.stream.published)).1 <;> exact nofun

end Service

namespace App

/-! ## Keystrokes and ticks -/

/-- **How a keystroke ends**: the program ends, or the keystroke is dropped with a word to the log,
or it is queued. -/
theorem send_eq {a : App} {initial : Service} {accepted handled : List Keystroke}
    (h : Service.InOrder initial accepted handled a.service) (key : Keystroke) :
    ((a.send key).service, (a.send key).log, (a.send key).quitting) =
      if a.service.phase.isOpen = false then (a.service, a.log, true)
      else if a.service.queue.length = initial.capacity then
        (a.service, a.log.record (droppedEvent key), a.quitting)
      else ({ a.service with queue := a.service.queue ++ [key] }, a.log, a.quitting) := by
  rw [send, h.trySend_eq key]
  split_ifs <;> rfl

/-- A keystroke ends the program only where the service has ended. -/
theorem quitting_send (a : App) (key : Keystroke) :
    (a.send key).quitting = (a.quitting || !a.service.phase.isOpen) := by
  simp only [send, Service.trySend]
  cases a.service.phase.isOpen with
  | false => exact (Bool.or_true _).symm
  | true =>
    rw [Bool.not_true, Bool.or_false, if_neg Bool.false_ne_true]
    by_cases full : a.service.capacity ≤ a.service.queue.length
    · rw [if_pos full]
    · rw [if_neg full]

/-- **An action ends the program** if it is the wish to quit, or a keystroke for a service that has
ended. -/
theorem quitting_perform (a : App) (action : Action) :
    (a.perform action).quitting ↔ a.quitting ∨ action = .quit ∨
      (∃ key, action = .calculate key) ∧ a.service.phase.isOpen = false := by
  cases action with
  | calculate key =>
    show (a.send key).quitting = true ↔ _
    rw [quitting_send]
    simp
  | quit => simp [perform]
  | _ => simp [perform]

theorem quitting_foldl_accept (a : App) (receipts : List Stream.Receipt) :
    (receipts.foldl accept a).quitting = a.quitting := by
  induction receipts generalizing a with
  | nil => rfl
  | cons receipt rest ih =>
    rw [List.foldl_cons, ih]
    cases receipt <;> rfl

/-- A tick ends the program only where no update can come. -/
theorem quitting_tick (a : App) : a.tick.quitting = (a.quitting || !a.service.mayPublish) := by
  rw [← a.quitting_foldl_accept]
  rfl

/-! ## Deeds -/

/-- The move lets a handle go. -/
def Move.drops (handle : Nat) : Move → Bool
  | .other a _ => a = .drop handle
  | _ => false

/-- **What can be done to the program**, or happen beside it. -/
inductive Deed where
  /-- An action by itself. -/
  | action (action : Action)
  | move (move : Move)

namespace Deed

/-- The action that it comes to, if any. -/
def action? (a : App) : Deed → Option Action
  | .action x => some x
  | .move (.input (.key k)) => some (a.keymap.resolve k).1
  | .move _ => none

/-- It lets a handle go. -/
def drops (handle : Nat) : Deed → Bool
  | .action _ => false
  | .move m => m.drops handle

/-- **It ends the program**: by a wish to quit, or as a keystroke for a service that has ended. -/
def Quits (a : App) (deed : Deed) : Prop :=
  deed.action? a = some .quit ∨
    (∃ key, deed.action? a = some (.calculate key)) ∧ a.service.phase.isOpen = false

end Deed

namespace Session

/-- **One deed.** -/
def after (s : Session) : Deed → Session
  | .action action => { s with app := s.app.perform action }
  | .move move => s.next move

/-- Deeds one after another. -/
def afterAll (s : Session) (deeds : List Deed) : Session := deeds.foldl after s

/-- **A deed that comes to an action** does what the action does, and the keyboard may remember. -/
theorem after_of_action? {s : Session} {deed : Deed} {action : Action}
    (h : deed.action? s.app = some action) :
    ∃ keymap, (s.after deed).app = { s.app with keymap }.perform action := by
  cases deed with
  | action action =>
    cases h
    exact ⟨s.app.keymap, rfl⟩
  | move move =>
    cases move with
    | input i =>
      cases i with
      | key k =>
        cases h
        exact ⟨(s.app.keymap.resolve k).2, rfl⟩
      | _ => cases h
    | _ => cases h

/-! ## Held sessions -/

/-- **A session is held**: its service is in order, and a handle of the service is there. -/
structure Held (initial : Service) (own : Nat) (s : Session) : Prop where
  order : ∃ accepted, Service.InOrder initial accepted s.handled s.app.service
  held : s.app.service.holds own

variable {initial : Service} {own : Nat} {s : Session}

/-- A move that does not drop a handle leaves it there. -/
theorem holds_next (held : s.app.service.holds own) {move : Move}
    (kept : move.drops own = false) : (s.next move).app.service.holds own := by
  cases move with
  | input i =>
    cases i with
    | key k => exact (s.app.untouched_press k).holds held
    | tick => exact held
    | turn => exact s.app.service.untouched_turn.holds held
    | start => exact s.app.service.untouched_start.holds held
    | stop => exact s.app.service.untouched_stop.holds held
    | shutdown => exact held
  | round told => exact s.app.service.untouched_round.holds held
  | other a told =>
    rw [Session.next]
    split
    · exact held
    · exact Service.holds_step held (of_decide_eq_false kept)

/-- **Every deed but the drop of the handle** keeps a session held. -/
theorem Held.after (h : s.Held initial own) {deed : Deed} (kept : deed.drops own = false) :
    (s.after deed).Held initial own := by
  obtain ⟨accepted, order⟩ := h.order
  cases deed with
  | action action =>
    exact ⟨order_perform order action, (s.app.untouched_perform action).holds h.held⟩
  | move move => exact ⟨order_next order move, holds_next h.held kept⟩

theorem Held.afterAll (h : s.Held initial own) {deeds : List Deed}
    (kept : ∀ deed ∈ deeds, deed.drops own = false) : (s.afterAll deeds).Held initial own := by
  induction deeds generalizing s with
  | nil => exact h
  | cons deed rest ih =>
    have hafter := h.after (kept deed List.mem_cons_self)
    exact ih hafter fun later mem => kept later (List.mem_cons_of_mem _ mem)

/-! ## Ending the program -/

/-- **In a held session** a deed leaves a program that is to end as it is, and ends another one
exactly if it is such a deed. -/
theorem Held.quitting_after (h : s.Held initial own) (deed : Deed) :
    (s.after deed).app.quitting ↔ s.app.quitting ∨ deed.Quits s.app := by
  obtain ⟨accepted, order⟩ := h.order
  unfold Deed.Quits
  cases haction : deed.action? s.app with
  | some action =>
    obtain ⟨keymap, happ⟩ := after_of_action? haction
    rw [happ, Option.some_inj]
    simp only [Option.some_inj]
    exact quitting_perform { s.app with keymap } action
  | none =>
    have hsame : (s.after deed).app.quitting = s.app.quitting := by
      cases deed with
      | action action => cases haction
      | move move =>
        cases move with
        | input i =>
          cases i with
          | key k => cases haction
          | tick =>
            show s.app.tick.quitting = s.app.quitting
            rw [quitting_tick, Service.mayPublish_of_holds h.held, Bool.not_true, Bool.or_false]
          | _ => rfl
        | round told => rfl
        | other a told =>
          rw [Session.after, Session.next]
          split <;> rfl
    simp [hsame]

/-- **A program is to end exactly if one of its deeds ended it.** -/
theorem Held.quitting_afterAll (h : s.Held initial own) {deeds : List Deed}
    (kept : ∀ deed ∈ deeds, deed.drops own = false) :
    (s.afterAll deeds).app.quitting ↔ s.app.quitting ∨
      ∃ front deed back, deeds = front ++ deed :: back ∧
        deed.Quits (s.afterAll front).app := by
  induction deeds generalizing s with
  | nil =>
    refine ⟨.inl, ?_⟩
    rintro (quitting | ⟨front, deed, back, split, -⟩)
    · exact quitting
    · cases front <;> cases split
  | cons first rest ih =>
    have hafter := h.after (kept first List.mem_cons_self)
    have hrest := ih hafter fun later mem => kept later (List.mem_cons_of_mem _ mem)
    refine hrest.trans ?_
    rw [h.quitting_after first, or_assoc]
    refine or_congr_right ?_
    constructor
    · rintro (now | ⟨front, deed, back, rfl, later⟩)
      · exact ⟨[], first, rest, rfl, now⟩
      · exact ⟨first :: front, deed, back, rfl, later⟩
    · rintro ⟨front, deed, back, split, quits⟩
      cases front with
      | nil =>
        cases split
        exact .inl quits
      | cons _ front =>
        cases split
        exact .inr ⟨front, deed, back, rfl, quits⟩

/-- A program is held from the start by a handle that was there when it was made. -/
theorem held_new {m : Service.Moment} (order : m.InOrder initial) (held : m.service.holds own)
    (log : Log.Collector) :
    (Session.mk (.new m.service log) m.handled).Held initial own :=
  ⟨⟨m.acceptedKeys, Service.InOrder.frame order rfl rfl rfl rfl id⟩, held⟩

end Session

/-! ## Every keystroke -/

/-- **No keystroke is lost silently.** A program was made over a service that had come to any moment
of a schedule, with a handle that was held, and nobody has dropped that handle since; otherwise
anything has been done.

* An action for the calculator has one of three effects. If the service has ended, the program is
  to end. Otherwise, if the queue is full, it stays as it is, and one event is recorded that says so
  and names the keystroke. Otherwise the keystroke is put at the end of the queue. Nothing else of
  the service and the log changes, and in each case the keypad shows the keystroke as pressed.
* No other action changes the service, the keypad or the display.
* The program is to end exactly if an action to quit, or one for the calculator of a service that
  had ended, is among what was done; and no deed takes it back.
* No reading of the subscription finds that no update can come, and so a tick does not end the
  program. -/
theorem keystrokes_accounted (calculator : Calculator) (capacity own : Nat)
    (before : List Service.Move) (log : Log.Collector) (deeds : List Deed) :
    let made := Service.Moment.run { service := .new calculator capacity } before
    let begun : Session := { app := .new made.service log, handled := made.handled }
    let s := begun.afterAll deeds
    let a := s.app
    made.service.holds own → (∀ deed ∈ deeds, deed.drops own = false) →
      (∀ deed key, deed.action? a = some (.calculate key) →
        let b := (s.after deed).app
        (b.service, b.log, b.quitting) =
            (if a.service.phase.isOpen = false then (a.service, a.log, true)
            else if a.service.queue.length = max capacity 1 then
              (a.service, a.log.record (.of .warn "calcpad::app" "keystroke dropped, queue full"
                [("event", key.text)]), a.quitting)
            else ({ a.service with queue := a.service.queue ++ [key] }, a.log, a.quitting)) ∧
          b.keypad.lastPressed = some key ∧ b.display = a.display) ∧
      (∀ deed action, deed.action? a = some action → (∀ key, action ≠ .calculate key) →
        let b := (s.after deed).app
        b.service = a.service ∧ b.keypad = a.keypad ∧ b.display = a.display) ∧
      (a.quitting ↔ ∃ front deed back, deeds = front ++ deed :: back ∧
        deed.Quits (begun.afterAll front).app) ∧
      (∀ deed, a.quitting → (s.after deed).app.quitting) ∧
      (a.service.receive a.subscription).1 ≠ .closed ∧ a.tick.quitting = a.quitting := by
  intro made begun s a held kept
  have hmade : made.InOrder (.new calculator capacity) :=
    (show (Service.Moment.mk (.new calculator capacity) [] [] []).InOrder _ from
      Service.inOrder_new calculator capacity).run before
  have hbegun : begun.Held (.new calculator capacity) own := Session.held_new hmade held log
  have h : s.Held (.new calculator capacity) own := hbegun.afterAll kept
  obtain ⟨accepted, order⟩ := h.order
  have may : a.service.mayPublish := Service.mayPublish_of_holds h.held
  refine ⟨?_, ?_, ?_, ?_, Service.receive_ne_closed may _, ?_⟩
  · intro deed key haction b
    obtain ⟨keymap, happ⟩ := Session.after_of_action? haction
    have hb : b = { a with keymap }.send key := happ
    rw [hb, keypad_send, display_send]
    exact ⟨send_eq (a := { a with keymap }) order key, rfl, rfl⟩
  · intro deed action haction other b
    obtain ⟨keymap, happ⟩ := Session.after_of_action? haction
    have hb : b = { a with keymap }.perform action := happ
    rw [hb]
    cases action with
    | calculate key => exact absurd rfl (other key)
    | _ => exact ⟨rfl, rfl, rfl⟩
  · refine (hbegun.quitting_afterAll kept).trans (or_iff_right ?_)
    exact Bool.false_ne_true
  · exact fun deed quitting => (h.quitting_after deed).mpr (.inl quitting)
  · rw [quitting_tick, may, Bool.not_true, Bool.or_false]

/-- The second keystroke finds the one place taken, and is dropped with a word to the log. A tick does
no harm, and the third keystroke, which comes when the service is gone, ends the program. -/
theorem keystrokes_accounted_full :
    let before : List Service.Move := [.act 0 (.trySend 0 (.digit '1'))]
    let log := Log.Collector.new .warn 4
    let made := Service.Moment.run { service := .new (.fresh {}) 1 } before
    let begun : Session := { app := .new made.service log, handled := made.handled }
    let second : Deed := .action (.calculate (.digit '2'))
    let third : Deed := .move (.input (.key (.char '3')))
    let deeds : List Deed :=
      [second, .move (.other (.clone 0) []), .move (.other (.drop 1) []),
        .move (.input .stop), .move (.input .tick), third]
    made.service.holds 0 ∧ (∀ deed ∈ deeds, deed.drops 0 = false) ∧
      (begun.after second).app.service.queue = [.digit '1'] ∧
      (begun.after second).app.log.entries = [⟨.warn, "calcpad::app",
        "keystroke dropped, queue full", [("event", (Keystroke.digit '2').text)]⟩] ∧
      (begun.afterAll deeds.dropLast).app.quitting = false ∧
      (begun.afterAll deeds).app.quitting := by
  intro before log made begun second third deeds
  have held : made.service.holds 0 := by decide
  have kept : ∀ deed ∈ deeds, deed.drops 0 = false := by decide
  have dropped := ((keystrokes_accounted (.fresh {}) 1 0 before log [] held (by simp)).1
    second (.digit '2') rfl).1
  rw [Prod.mk.injEq, Prod.mk.injEq] at dropped
  obtain ⟨service, told, -⟩ := dropped
  refine ⟨held, kept, ?_, ?_, by decide +kernel, ?_⟩
  · exact congrArg Service.queue service
  · exact congrArg Log.Collector.entries told
  · have ending := (keystrokes_accounted (.fresh {}) 1 0 before log deeds held kept).2.2.1
    exact ending.mpr ⟨deeds.dropLast, third, [], rfl, .inr ⟨⟨.digit '3', rfl⟩, by decide⟩⟩

end App

end PocketCalc
