import PocketCalc.Proofs.Service.Invariant
import PocketCalc.Service.Channel

/-!
# A request to shut down is a flag

The channel for requests to shut down has senders that come and go, a reader, and requests that can
be lost. The flag in its place says only whether a request was made. As long as keystrokes can be
handled, nothing has been read from the channel, for the task ends on the first reading, and the
channel is open, for the service keeps a sender. So there is something to read exactly when the flag
is set (`Channel.StandsFor.pending_iff`).

**The law** (`Wired.Matches.round`, `Wired.Matches.step`, `WiredMoment.run_matches`): every round,
every action and every schedule does the same with the channel as with the flag, and every action
has the same answer.

**What it does not establish.** What a request does that comes after the service has ended: without
a reader it goes nowhere, and the flag is set where nobody looks at it any more.
-/

namespace PocketCalc.Service

/-! ## The channel in place of the flag -/

/-- The service without its flag. -/
def unflagged (s : Service) : Service := { s with shutdownRequested := false }

theorem trySend_unflagged (s : Service) (key : Keystroke) :
    s.unflagged.trySend key = (s.trySend key).map unflagged := by
  unfold trySend
  show ite (!s.phase.isOpen) _ (ite (s.capacity ≤ s.queue.length) _ _) = _
  split
  · rfl
  · split <;> rfl

namespace Channel

variable {c : Channel} {s : Service}

/-- **Where something was sent that was not read**, that is read, or that it is lost. -/
theorem poll_of_lt (more : c.read < c.sent) :
    ∃ reading read, c.poll = (reading, { c with read }) ∧ reading ≠ .closed ∧ reading ≠ .pending := by
  unfold poll
  split
  · exact ⟨_, _, rfl, nofun, nofun⟩
  · exact ⟨_, _, rfl, nofun, nofun⟩

/-- **Where all was read**, the channel stays as it is, and a sender keeps it open. -/
theorem poll_of_le (all : c.sent ≤ c.read) :
    c.poll = (if c.anySender then .pending else .closed, c) := by
  rw [poll, if_neg (by omega), if_neg (by omega)]
  split <;> rfl

/-- **The channel is closed** where all was read and no sender is left, be it the service's own. -/
theorem poll_eq_closed_iff : c.poll.1 = .closed ↔ c.sent ≤ c.read ∧ c.anySender = false := by
  rcases Nat.lt_or_ge c.read c.sent with more | all
  · obtain ⟨reading, read, hpoll, notClosed, -⟩ := poll_of_lt more
    rw [hpoll]
    exact iff_of_false notClosed (by omega)
  · rw [poll_of_le all]
    cases c.anySender with
    | true => exact iff_of_false nofun nofun
    | false => exact iff_of_true rfl ⟨all, rfl⟩

/-- As long as there is a sender, there is nothing to read where all was read. -/
theorem poll_eq_pending_iff (sender : c.anySender) : c.poll.1 = .pending ↔ c.sent ≤ c.read := by
  rcases Nat.lt_or_ge c.read c.sent with more | all
  · obtain ⟨reading, read, hpoll, -, some⟩ := poll_of_lt more
    rw [hpoll]
    exact iff_of_false some (by omega)
  · rw [poll_of_le all, if_pos sender]
    exact iff_of_true rfl all

/-- Where there is nothing to read yet, the channel stays as it is. -/
theorem poll_of_pending (none : c.poll.1 = .pending) : c.poll = (.pending, c) := by
  rcases Nat.lt_or_ge c.read c.sent with more | all
  · obtain ⟨reading, read, hpoll, -, some⟩ := poll_of_lt more
    rw [hpoll] at none
    exact absurd none some
  · rw [poll_of_le all] at none ⊢
    exact Prod.ext none rfl

theorem senders_poll (c : Channel) : c.poll.2.senders = c.senders := by
  rcases Nat.lt_or_ge c.read c.sent with more | all
  · obtain ⟨reading, read, hpoll, -⟩ := poll_of_lt more
    rw [hpoll]
  · rw [poll_of_le all]

/-- **The channel stands for the flag** of a service: it has the senders of the handles; the service
has its reader, and keeps a sender, as long as keystrokes can be handled; nothing was read yet, and
there is something to read when the flag is set. -/
structure StandsFor (c : Channel) (s : Service) : Prop where
  senders : c.senders = s.handles
  kept : c.kept = s.phase.isOpen
  reader : c.reader = s.phase.isOpen
  read : s.phase.isOpen → c.read = 0
  unread : s.phase.isOpen → (s.shutdownRequested ↔ 0 < c.sent)

namespace StandsFor

theorem frame (h : c.StandsFor s) {after : Service} (handles : after.handles = s.handles)
    (phase : after.phase.isOpen = s.phase.isOpen)
    (flag : after.shutdownRequested = s.shutdownRequested) : c.StandsFor after := by
  constructor
  · rw [handles, h.senders]
  · rw [phase, h.kept]
  · rw [phase, h.reader]
  · rw [phase]
    exact h.read
  · rw [phase, flag]
    exact h.unread

/-- With the service, its ends of the channel go. -/
theorem close (senders : c.senders = s.handles) (ended : s.phase.isOpen = false) :
    c.close.StandsFor s := by
  refine ⟨senders, ended.symm, ended.symm, ?_, ?_⟩ <;>
    exact fun isOpen => absurd isOpen (ended ▸ Bool.false_ne_true)

theorem send (h : c.StandsFor s) : c.send.StandsFor s.requestShutdown := by
  unfold Channel.send
  cases hopen : s.phase.isOpen with
  | true =>
    rw [if_pos (h.reader.trans hopen)]
    exact ⟨h.senders, h.kept, h.reader, h.read, fun _ => iff_of_true rfl (Nat.succ_pos _)⟩
  | false =>
    rw [if_neg (by rw [h.reader, hopen]; decide)]
    refine ⟨h.senders, h.kept, h.reader, h.read, fun isOpen => ?_⟩
    exact absurd (hopen.symm.trans isOpen) Bool.false_ne_true

theorem addSender (h : c.StandsFor s) : c.addSender.StandsFor s.clone.2 :=
  ⟨congrArg (· ++ [true]) h.senders, h.kept, h.reader, h.read, h.unread⟩

theorem release (h : c.StandsFor s) (handle : Nat) :
    (c.release handle).StandsFor (s.drop handle) :=
  ⟨congrArg (List.set · handle false) h.senders, h.kept, h.reader, h.read, h.unread⟩

theorem anySender (h : c.StandsFor s) (isOpen : s.phase.isOpen) : c.anySender := by
  rw [Channel.anySender, h.kept, isOpen, Bool.true_or]

/-- **There is something to read exactly when the flag is set.** -/
theorem pending_iff (h : c.StandsFor s) (isOpen : s.phase.isOpen) :
    c.poll.1 = .pending ↔ s.shutdownRequested = false := by
  rw [poll_eq_pending_iff (h.anySender isOpen), h.read isOpen, ← Bool.not_eq_true,
    h.unread isOpen, Nat.not_lt]

end StandsFor

end Channel

namespace Wired

/-- **A wired service does as the service with the flag.** -/
structure Matches (w : Wired) (s : Service) : Prop where
  service : w.service = s.unflagged
  channel : w.channel.StandsFor s

theorem matches_new (calculator : Calculator) (capacity : Nat) :
    Matches { service := new calculator capacity } (new calculator capacity) :=
  ⟨rfl, rfl, rfl, rfl, fun _ => rfl, fun _ => iff_of_false nofun (Nat.not_lt_zero 0)⟩

variable {w : Wired} {s : Service}

/-! ### Rounds -/

theorem round_of_not_running (h : w.service.isRunning = false) : w.round = ([], w) := by
  unfold isRunning at h
  unfold round
  cases hp : w.service.phase with
  | running announced => simp [hp] at h
  | _ => rfl

section Running

variable {announced : Bool}

/-- Whatever there is to read ends the task. -/
theorem round_read (h : w.service.phase = .running announced)
    (some : w.channel.poll.1 ≠ .pending) :
    w.round =
      ([], ⟨{ w.service with phase := .finished, queue := [] }, w.channel.poll.2.close⟩) := by
  unfold round
  rw [h]
  generalize w.channel.poll = reading at some
  obtain ⟨reading, channel⟩ := reading
  cases reading with
  | pending => exact absurd rfl some
  | _ => rfl

theorem round_cons (h : w.service.phase = .running announced) (none : w.channel.poll.1 = .pending)
    {key : Keystroke} {rest : List Keystroke} (queue : w.service.queue = key :: rest) :
    w.round =
      ([key],
        ⟨{ w.service.handle key with queue := rest, phase := .running true }, w.channel⟩) := by
  simp only [round, h, Channel.poll_of_pending none, queue]

theorem round_nil (h : w.service.phase = .running announced) (none : w.channel.poll.1 = .pending)
    (queue : w.service.queue = []) :
    w.round =
      if w.service.anyHandle then ([], ⟨{ w.service with phase := .running true }, w.channel⟩)
      else ([], ⟨{ w.service with phase := .finished }, w.channel.close⟩) := by
  simp only [round, h, Channel.poll_of_pending none, queue]

end Running

/-- **Every round is the same**, whether the task reads the channel or looks at the flag. -/
theorem Matches.round (h : w.Matches s) :
    w.round.1 = s.round.1 ∧ w.round.2.Matches s.round.2 := by
  obtain ⟨service, channel⟩ := w
  obtain ⟨rfl, hchannel⟩ := h
  cases hrun : s.isRunning with
  | false =>
    rw [round_of_not_running hrun, Service.round_of_not_running hrun]
    exact ⟨rfl, rfl, hchannel⟩
  | true =>
    obtain ⟨announced, hp⟩ := exists_of_isRunning hrun
    have isOpen : s.phase.isOpen := by rw [hp]; rfl
    have hpending := hchannel.pending_iff isOpen
    cases hflag : s.shutdownRequested with
    | true =>
      have some : channel.poll.1 ≠ .pending := by rw [Ne, hpending, hflag]; decide
      rw [round_read (w := ⟨s.unflagged, channel⟩) hp some, round_shutdown hp hflag]
      exact ⟨rfl, rfl, .close (channel.senders_poll.trans hchannel.senders) rfl⟩
    | false =>
      have none : channel.poll.1 = .pending := hpending.mpr hflag
      cases hqueue : s.queue with
      | cons key rest =>
        rw [round_cons (w := ⟨s.unflagged, channel⟩) hp none hqueue,
          Service.round_cons hp hflag hqueue]
        exact ⟨rfl, rfl, hchannel.frame rfl isOpen.symm rfl⟩
      | nil =>
        rw [round_nil (w := ⟨s.unflagged, channel⟩) hp none hqueue,
          Service.round_nil hp hflag hqueue, show s.unflagged.anyHandle = s.anyHandle from rfl]
        split
        · exact ⟨rfl, rfl, hchannel.frame rfl isOpen.symm rfl⟩
        · exact ⟨rfl, rfl, .close hchannel.senders rfl⟩

theorem Matches.rounds (h : w.Matches s) (n : Nat) :
    (Wired.rounds n w).1 = (Service.rounds n s).1 ∧
      (Wired.rounds n w).2.Matches (Service.rounds n s).2 := by
  induction n generalizing w s with
  | zero => exact ⟨rfl, h⟩
  | succ n ih =>
    obtain ⟨hhandled, hafter⟩ := ih h.round.2
    refine ⟨?_, hafter⟩
    rw [Wired.rounds, Service.rounds, h.round.1, hhandled]

/-- **Every turn is the same.** -/
theorem Matches.turn (h : w.Matches s) :
    w.turn.1 = s.upcoming ∧ w.turn.2.Matches s.turn := by
  have hrounds := h.rounds (s.queue.length + 1)
  rw [rounds_eq_turn] at hrounds
  rw [Wired.turn, h.service]
  exact hrounds

/-! ### Actions -/

/-- Queueing a keystroke, or being refused, is no concern of the channel. -/
theorem Matches.trySend (h : w.Matches s) (key : Keystroke) :
    w.service.trySend key = (s.trySend key).map unflagged ∧
      ∀ after, s.trySend key = .ok after → Matches { w with service := after.unflagged } after := by
  refine ⟨by rw [h.service, trySend_unflagged], fun after queued => ⟨rfl, ?_⟩⟩
  obtain ⟨-, -, rfl⟩ := trySend_eq_ok queued
  exact h.channel.frame rfl rfl rfl

/-- **Every send is the same**, and lets the task handle the same while it waits. -/
theorem Matches.send (h : w.Matches s) (handle : Nat) (key : Keystroke) :
    (w.send key).1 = (s.act (.send handle key)).1 ∧
      (w.send key).2.1 = (if (s.trySend key matches .error .full) then s.upcoming else []) ∧
      (w.send key).2.2.Matches (s.act (.send handle key)).2 := by
  obtain ⟨htry, hqueued⟩ := h.trySend key
  have hrunning : w.service.isRunning = s.isRunning := by rw [h.service]; rfl
  rw [Wired.send, htry, Service.act, Service.send]
  cases hs : s.trySend key with
  | ok after => exact ⟨rfl, rfl, hqueued after hs⟩
  | error e =>
    cases e with
    | closed => exact ⟨rfl, rfl, h⟩
    | full =>
      cases hrun : s.isRunning with
      | false =>
        simp only [Except.map, hrunning, hrun]
        exact ⟨rfl, (turn_of_not_running hrun).2.symm, h⟩
      | true =>
        obtain ⟨hhandled, hturn⟩ := h.turn
        obtain ⟨htry', hqueued'⟩ := hturn.trySend key
        simp only [Except.map, hrunning, hrun, if_true, htry']
        cases hs' : s.turn.trySend key with
        | ok after => exact ⟨rfl, hhandled, hqueued' after hs'⟩
        | error e => exact ⟨rfl, hhandled, hturn⟩

theorem Matches.start (h : w.Matches s) :
    w.service.start.1 = s.start.1 ∧ Matches { w with service := w.service.start.2 } s.start.2 := by
  obtain ⟨service, channel⟩ := w
  obtain ⟨calculator, capacity, queue, phase, flag, handles, stream, cursors⟩ := s
  obtain ⟨rfl, hchannel⟩ := h
  cases phase <;> exact ⟨rfl, rfl, hchannel.frame rfl rfl rfl⟩

theorem Matches.collect (h : w.Matches s) :
    w.service.collect.1 = s.collect.1 ∧
      Matches { w with service := w.service.collect.2 } s.collect.2 := by
  obtain ⟨service, channel⟩ := w
  obtain ⟨calculator, capacity, queue, phase, flag, handles, stream, cursors⟩ := s
  obtain ⟨rfl, hchannel⟩ := h
  cases phase <;> exact ⟨rfl, rfl, hchannel.frame rfl rfl rfl⟩

theorem Matches.stop (h : w.Matches s) : (w.act .stop).2.2.Matches s.stop := by
  obtain ⟨service, channel⟩ := w
  obtain ⟨calculator, capacity, queue, phase, flag, handles, stream, cursors⟩ := s
  obtain ⟨rfl, hchannel⟩ := h
  cases phase with
  | waiting => exact ⟨rfl, .close hchannel.senders rfl⟩
  | _ => exact ⟨rfl, hchannel⟩

/-- **Every action has the same answer, and does the same.** -/
theorem Matches.act (h : w.Matches s) (a : Action) :
    (w.act a).1 = (s.act a).1 ∧ (w.act a).2.2.Matches (s.act a).2 := by
  obtain ⟨service, channel⟩ := w
  obtain rfl : service = s.unflagged := h.service
  cases a with
  | trySend handle key =>
    obtain ⟨htry, hqueued⟩ := h.trySend key
    simp only [Wired.act, Service.act, htry]
    cases hs : s.trySend key with
    | ok after => exact ⟨rfl, hqueued after hs⟩
    | error e => exact ⟨rfl, h⟩
  | send handle key => exact ⟨(h.send handle key).1, (h.send handle key).2.2⟩
  | clone handle => exact ⟨rfl, rfl, h.channel.addSender⟩
  | drop handle => exact ⟨rfl, rfl, h.channel.release handle⟩
  | subscribe handle => exact ⟨rfl, rfl, h.channel.frame rfl rfl rfl⟩
  | receive i => exact ⟨rfl, rfl, h.channel.frame rfl rfl rfl⟩
  | shutdown handle => exact ⟨rfl, rfl, h.channel.send⟩
  | start => exact ⟨congrArg Answer.started h.start.1, h.start.2⟩
  | stop => exact ⟨rfl, h.stop⟩
  | turn =>
    refine ⟨?_, h.turn.2⟩
    show Answer.running (Wired.turn ⟨s.unflagged, channel⟩).2.service.isRunning = _
    rw [h.turn.2.service]
    rfl
  | collect => exact ⟨congrArg Answer.joined h.collect.1, h.collect.2⟩

/-- **Every step has the same answer, handles the same, and does the same.** -/
theorem Matches.step (h : w.Matches s) (a : Action) :
    (w.step a).1 = (s.step a).1 ∧ (w.step a).2.1 = s.stepHandled a ∧
      (w.step a).2.2.Matches (s.step a).2 := by
  have hlacks : w.service.lacksHandle a = s.lacksHandle a := by rw [h.service]; rfl
  unfold Wired.step Service.step stepHandled takesTurn
  rw [hlacks]
  cases s.lacksHandle a with
  | true => exact ⟨rfl, rfl, h⟩
  | false =>
    refine ⟨(h.act a).1, ?_, (h.act a).2⟩
    cases a with
    | send handle key => exact (h.send handle key).2.1
    | turn => exact h.turn.1
    | _ => rfl

end Wired

/-! ## Schedules -/

namespace Moment

/-- The moment without the flag of its service. -/
def unflagged (m : Moment) : Moment := { m with service := m.service.unflagged }

variable (m : Moment)

theorem attempt_unflagged (name : Nat) (key : Keystroke) :
    m.unflagged.attempt name key = (m.attempt name key).unflagged := by
  unfold attempt
  rw [show m.unflagged.service.trySend key = _ from trySend_unflagged m.service key]
  cases m.service.trySend key with
  | ok after => rfl
  | error e => cases e <;> rfl

theorem phase_attempt (name : Nat) (key : Keystroke) :
    (m.attempt name key).service.phase = m.service.phase := by
  unfold attempt
  split
  next after htry =>
    obtain ⟨-, -, rfl⟩ := trySend_eq_ok htry
    rfl
  · rfl
  · rfl

/-- **A move about a send that waits** does the same without the flag. -/
theorem next_unflagged {move : Move} (wait : move.isWait) :
    m.unflagged.next move = (m.next move).unflagged := by
  cases move with
  | beginSend name handle key =>
    rw [next, next, attempt_unflagged]
    show ite (m.service.holds handle) _ _ = unflagged (ite (m.service.holds handle) _ _)
    split <;> rfl
  | retry name =>
    rw [next, next, show m.unflagged.waiting = m.waiting from rfl]
    split
    next send _ => exact (m.leave name).attempt_unflagged send.1 send.2
    next => rfl
  | giveUp name => rfl
  | _ => cases wait

theorem phase_next {move : Move} (wait : move.isWait) :
    (m.next move).service.phase = m.service.phase := by
  obtain ⟨waiting, h | ⟨name, key, h⟩⟩ := m.next_of_isWait wait
  · rw [h]
  · rw [h, phase_attempt]

end Moment

/-- **Where a schedule has come to** with a service that is asked through a channel. -/
structure WiredMoment where
  moment : Moment
  channel : Channel := {}

namespace WiredMoment

/-- The service, with the channel. -/
def wired (w : WiredMoment) : Wired := ⟨w.moment.service, w.channel⟩

/-- **One move.** A send that waits is no concern of the channel. -/
def next (w : WiredMoment) : Move → WiredMoment
  | .act name a =>
    let (answer, handled, after) := w.wired.step a
    { moment := { w.moment with
        service := after.service
        accepted := w.moment.accepted ++ (answer.keystrokes a).map fun key => (name, key)
        handled := w.moment.handled ++ handled }
      channel := after.channel }
  | .round =>
    let (handled, after) := w.wired.round
    { moment := { w.moment with
        service := after.service
        handled := w.moment.handled ++ handled }
      channel := after.channel }
  | move => { w with moment := w.moment.next move }

/-- Moves one after another. -/
def run (w : WiredMoment) (moves : List Move) : WiredMoment := moves.foldl next w

/-- **The same moment**, with the channel in place of the flag. -/
structure Matches (w : WiredMoment) (m : Moment) : Prop where
  moment : w.moment = m.unflagged
  channel : w.channel.StandsFor m.service

variable {w : WiredMoment} {m : Moment}

theorem Matches.wired (h : w.Matches m) : w.wired.Matches m.service :=
  ⟨congrArg Moment.service h.moment, h.channel⟩

theorem Matches.wait (h : w.Matches m) {move : Move} (wait : move.isWait) :
    Matches { w with moment := w.moment.next move } (m.next move) := by
  constructor
  · rw [h.moment]
    exact m.next_unflagged wait
  · have untouched := m.untouched_next wait
    exact h.channel.frame untouched.handles (by rw [m.phase_next wait]) untouched.shutdown

/-- **Every move keeps the moments the same.** -/
theorem Matches.next (h : w.Matches m) (move : Move) : (w.next move).Matches (m.next move) := by
  obtain ⟨moment, channel⟩ := w
  obtain rfl : moment = m.unflagged := h.moment
  cases move with
  | act name a =>
    obtain ⟨hanswer, hhandled, hafter⟩ := h.wired.step a
    refine ⟨?_, hafter.channel⟩
    simp only [WiredMoment.next, Moment.next, hanswer, hhandled, hafter.service]
    rfl
  | round =>
    obtain ⟨hhandled, hafter⟩ := h.wired.round
    refine ⟨?_, hafter.channel⟩
    simp only [WiredMoment.next, Moment.next, hhandled, hafter.service]
    rfl
  | _ => exact h.wait rfl

/-- **Every schedule keeps them the same.** -/
theorem Matches.run (h : w.Matches m) (moves : List Move) :
    (w.run moves).Matches (m.run moves) := by
  induction moves generalizing w m with
  | nil => exact h
  | cons move rest ih => exact ih (h.next move)

/-- **A request to shut down is a flag.** Under every schedule a new service that is asked through a
channel comes to the same moment as the one with the flag; and as long as keystrokes can be handled,
the channel is not closed, and there is something to read exactly when the flag is set. -/
theorem run_matches (calculator : Calculator) (capacity : Nat) (moves : List Move) :
    let w := WiredMoment.run { moment := { service := new calculator capacity } } moves
    let m := Moment.run { service := new calculator capacity } moves
    w.moment = m.unflagged ∧
      (m.service.phase.isOpen →
        w.channel.poll.1 ≠ .closed ∧
          (w.channel.poll.1 = .pending ↔ m.service.shutdownRequested = false)) := by
  intro w m
  have begun : Matches { moment := { service := new calculator capacity } }
      { service := new calculator capacity } :=
    ⟨rfl, (Wired.matches_new calculator capacity).channel⟩
  have h := begun.run moves
  refine ⟨h.moment, fun isOpen => ⟨?_, h.channel.pending_iff isOpen⟩⟩
  intro closed
  have none := (Channel.poll_eq_closed_iff.mp closed).2
  rw [h.channel.anySender isOpen] at none
  cases none

/-- Two requests come before the task's first round: it is told that one of them was lost, and ends.
When the last handle goes instead, there is nothing to read, for the service keeps a sender; without
it the channel would be closed, and what is queued would not be handled any more. -/
example :
    let sent := WiredMoment.run { moment := { service := new (.fresh {}) 4 } }
      [.act 0 .start, .act 1 (.trySend 0 (.digit '1'))]
    let asked := sent.run [.act 2 (.shutdown 0), .act 3 (.shutdown 0)]
    let left := sent.run [.act 2 (.drop 0)]
    asked.channel.poll.1 = .lagged 1 ∧ (asked.next .round).moment.service.phase = .finished ∧
      left.channel.poll.1 = .pending ∧ (left.next .round).moment.handled = [.digit '1'] ∧
      { left.channel with kept := false }.poll.1 = .closed := by
  decide

end WiredMoment

end PocketCalc.Service
