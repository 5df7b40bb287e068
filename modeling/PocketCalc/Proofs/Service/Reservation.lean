import PocketCalc.Proofs.Service.Order

/-!
# Places kept for sends that wait

In the queue of a `Service` a place that falls free is free for whoever looks first. A queue can
also keep such a place for the send that has waited longest. Until that send goes on and takes its
place, everybody else finds the queue full, though it holds fewer keystrokes than it can.

A `Reserving` service has such a queue. Sends that wait stand in a line, and those for which a place
is kept have left it. A send holds on to its handle as long as it has begun and not ended, so that
dropping the handle gives it up.

**The law** (`Reserving.InPlace.run_shadow`, `Reserving.run_reserving`): whatever a reserving
service accepts and handles under a schedule, and wherever it comes to, the service with the plain
queue does too, under the schedule in which every keystroke is sent when it is accepted, and no send
that is refused or waits is made at all (`Reserving.plainAll`). So what holds of the plain queue
under every schedule holds of this one.

**What it does not establish.** That a send for which a place is kept ever goes on.
-/

namespace PocketCalc.Service

/-! ## The reserving queue -/

/-- **A send that has begun**, through a handle. -/
structure Waiter where
  name : Nat
  handle : Nat
  key : Keystroke
  deriving DecidableEq, Repr

/-- **A service whose queue keeps places**, and where its schedule has come to. -/
structure Reserving where
  service : Service
  /-- The sends that wait for a place, the one that has waited longest first. -/
  waiting : List Waiter := []
  /-- The sends for which a place is kept. -/
  granted : List Waiter := []
  /-- The keystrokes that were accepted, in order, each with the name of its send. -/
  accepted : List (Nat × Keystroke) := []
  /-- The keystrokes that were handled, in order. -/
  handled : List Keystroke := []

namespace Reserving

/-- The places in which there is a keystroke, or which are kept. -/
def taken (r : Reserving) : Nat := r.service.queue.length + r.granted.length

/-- **Free places are kept** for the sends that have waited longest. -/
def handOver (r : Reserving) : Reserving :=
  let free := r.service.capacity - r.taken
  { r with
    waiting := r.waiting.drop free
    granted := r.granted ++ r.waiting.take free }

/-- The keystroke of a send is queued. -/
def accept (r : Reserving) (send : Waiter) : Reserving :=
  { r with
    service := { r.service with queue := r.service.queue ++ [send.key] }
    accepted := r.accepted ++ [(send.name, send.key)] }

/-- There is a service that may handle what the send brings, and a handle to send it through. -/
def serves (r : Reserving) (send : Waiter) : Bool :=
  r.service.holds send.handle && r.service.phase.isOpen

/-- **A send begins**: it is accepted, or gets in line if it is one that waits, or is refused. -/
def attempt (r : Reserving) (send : Waiter) (waits : Bool) : Reserving :=
  if !r.serves send then r
  else if r.taken < r.service.capacity then r.accept send
  else if waits then { r with waiting := r.waiting ++ [send] }
  else r

/-- A send of this name is given up, and a place that was kept for it is free. -/
def leave (r : Reserving) (name : Nat) : Reserving :=
  { r with
    waiting := r.waiting.eraseP (·.name = name)
    granted := r.granted.eraseP (·.name = name) }

/-- **A send goes on**: it takes the place that is kept for it, or goes on waiting. -/
def resume (r : Reserving) (name : Nat) : Reserving :=
  if !r.service.phase.isOpen then r.leave name
  else
    match r.granted.find? (·.name = name) with
    | some send => { r with granted := r.granted.eraseP (·.name = name) }.accept send
    | none => r

/-- The sends through a handle are given up. -/
def release (r : Reserving) (handle : Nat) : Reserving :=
  { r with
    waiting := r.waiting.filter (·.handle ≠ handle)
    granted := r.granted.filter (·.handle ≠ handle) }

/-- An action that is no send. -/
def beside (r : Reserving) (a : Action) : Reserving :=
  { r with
    service := (r.service.step a).2
    handled := r.handled ++ r.service.stepHandled a }

/-- What a move does by itself. An action that sends with waiting only begins. -/
def perform (r : Reserving) : Move → Reserving
  | .act name (.trySend handle key) => r.attempt ⟨name, handle, key⟩ false
  | .act name (.send handle key) => r.attempt ⟨name, handle, key⟩ true
  | .act _ (.drop handle) => (r.release handle).beside (.drop handle)
  | .act _ a => r.beside a
  | .beginSend name handle key => r.attempt ⟨name, handle, key⟩ true
  | .retry name => r.resume name
  | .giveUp name => r.leave name
  | .round =>
    { r with service := r.service.round.2, handled := r.handled ++ r.service.round.1 }

/-- **One move**, after which no place is free as long as a send waits. -/
def next (r : Reserving) (move : Move) : Reserving := (r.perform move).handOver

/-- Moves one after another. -/
def run (r : Reserving) (moves : List Move) : Reserving := moves.foldl next r

variable {r : Reserving}

/-! ## The line -/

/-- **Places are kept in the order in which sends began.** -/
theorem line_handOver (r : Reserving) :
    r.handOver.granted ++ r.handOver.waiting = r.granted ++ r.waiting := by
  show (r.granted ++ r.waiting.take _) ++ r.waiting.drop _ = _
  rw [List.append_assoc, List.take_append_drop]

/-- **Nobody waits as long as a place is free.** -/
theorem waiting_handOver (r : Reserving) :
    r.handOver.waiting = [] ∨ r.service.capacity ≤ r.handOver.taken := by
  rcases Nat.le_total r.waiting.length (r.service.capacity - r.taken) with enough | few
  · exact .inl (List.drop_eq_nil_of_le enough)
  · right
    show r.service.capacity ≤ r.service.queue.length + (r.granted ++ r.waiting.take _).length
    rw [List.length_append, List.length_take, Nat.min_eq_left few]
    unfold taken
    omega

/-! ## In place -/

/-- **A reserving service is in place**: no more places are taken than there are, and every send
that has begun and not ended still has its handle. -/
structure InPlace (r : Reserving) : Prop where
  room : r.taken ≤ r.service.capacity
  held : ∀ send ∈ r.granted ++ r.waiting, r.service.holds send.handle

namespace InPlace

theorem handOver (h : r.InPlace) : r.handOver.InPlace := by
  constructor
  · have hroom := h.room
    show r.service.queue.length + (r.granted ++ r.waiting.take _).length ≤ r.service.capacity
    rw [List.length_append, List.length_take]
    unfold taken at hroom ⊢
    omega
  · rw [line_handOver]
    exact h.held

/-- Sends that end leave a service in place. -/
theorem fewer (h : r.InPlace) {waiting granted : List Waiter} (hw : waiting.Sublist r.waiting)
    (hg : granted.Sublist r.granted) : InPlace { r with waiting, granted } :=
  ⟨Nat.le_trans (Nat.add_le_add_left hg.length_le _) h.room,
    fun send mem => h.held send ((hg.append hw).subset mem)⟩

theorem accept (h : r.InPlace) (free : r.taken < r.service.capacity) (send : Waiter) :
    (r.accept send).InPlace := by
  refine ⟨?_, h.held⟩
  show (r.service.queue ++ [send.key]).length + r.granted.length ≤ r.service.capacity
  rw [List.length_append, List.length_singleton]
  unfold taken at free
  omega

theorem attempt (h : r.InPlace) (send : Waiter) (waits : Bool) :
    (r.attempt send waits).InPlace := by
  unfold Reserving.attempt
  split
  next => exact h
  next serves =>
    split
    next free => exact h.accept free send
    next =>
      split
      next =>
        refine ⟨h.room, fun other mem => ?_⟩
        rw [← List.append_assoc] at mem
        rcases List.mem_append.mp mem with old | new
        · exact h.held other old
        · obtain rfl := List.mem_singleton.mp new
          simp only [Reserving.serves, Bool.not_eq_true', Bool.not_eq_false, Bool.and_eq_true]
            at serves
          exact serves.1
      next => exact h

theorem leave (h : r.InPlace) (name : Nat) : (r.leave name).InPlace :=
  h.fewer List.eraseP_sublist List.eraseP_sublist

/-- The place that is kept for a send is free for it. -/
theorem free_of_granted (h : r.InPlace) {name : Nat} {send : Waiter}
    (found : r.granted.find? (·.name = name) = some send) :
    r.service.queue.length + (r.granted.eraseP (·.name = name)).length < r.service.capacity := by
  have hroom := h.room
  have hmem := List.mem_of_find?_eq_some found
  have hpos := List.length_pos_of_mem hmem
  rw [List.length_eraseP_of_mem hmem (List.find?_some found)]
  unfold taken at hroom
  omega

theorem resume (h : r.InPlace) (name : Nat) : (r.resume name).InPlace := by
  unfold Reserving.resume
  split
  · exact h.leave name
  · cases found : r.granted.find? (·.name = name) with
    | none => exact h
    | some send =>
      exact (h.fewer (.refl r.waiting) List.eraseP_sublist).accept (h.free_of_granted found) send

end InPlace

/-! ## What the service does meanwhile -/

end Reserving

/-- The action sends a keystroke. -/
def Action.sends : Action → Bool
  | .trySend _ _ => true
  | .send _ _ => true
  | _ => false

/-- The queue has the same capacity, and no more in it. -/
structure Drains (s after : Service) : Prop where
  capacity : after.capacity = s.capacity
  queue : after.queue.length ≤ s.queue.length

theorem drains_round (s : Service) : s.Drains s.round.2 := by
  unfold Service.round
  split
  · split
    · exact ⟨rfl, Nat.zero_le _⟩
    · split
      next key rest hqueue => exact ⟨rfl, by rw [hqueue]; exact Nat.le_succ _⟩
      next hqueue => exact ⟨rfl, Nat.le_refl _⟩
  · exact ⟨rfl, Nat.le_refl _⟩

theorem drains_turn (s : Service) : s.Drains s.turn := by
  cases hrun : s.isRunning with
  | false =>
    rw [(turn_of_not_running hrun).1]
    exact ⟨rfl, Nat.le_refl _⟩
  | true =>
    obtain ⟨announced, hp⟩ := exists_of_isRunning hrun
    rw [turn_of_running hp]
    exact ⟨rfl, Nat.zero_le _⟩

/-- **Only a send fills the queue.** -/
theorem drains_step (s : Service) {a : Action} (silent : a.sends = false) :
    s.Drains (s.step a).2 := by
  unfold Service.step
  split
  · exact ⟨rfl, Nat.le_refl _⟩
  · cases a with
    | trySend => cases silent
    | send => cases silent
    | turn => exact s.drains_turn
    | start => rw [act, Service.start]; split <;> exact ⟨rfl, Nat.le_refl _⟩
    | stop =>
      rw [act, Service.stop]
      split
      · exact ⟨rfl, Nat.zero_le _⟩
      · exact ⟨rfl, Nat.le_refl _⟩
    | collect => rw [act, Service.collect]; split <;> exact ⟨rfl, Nat.le_refl _⟩
    | _ => exact ⟨rfl, Nat.le_refl _⟩

theorem keystrokes_of_silent {a : Action} (silent : a.sends = false) (answer : Answer) :
    answer.keystrokes a = [] := by
  cases a with
  | trySend => cases silent
  | send => cases silent
  | _ => rfl

namespace Reserving

variable {r : Reserving}

namespace InPlace

theorem beside (h : r.InPlace) {a : Action} (silent : a.sends = false)
    (others : ∀ send ∈ r.granted ++ r.waiting, a ≠ .drop send.handle) : (r.beside a).InPlace := by
  obtain ⟨hcapacity, hqueue⟩ := r.service.drains_step silent
  constructor
  · show (r.service.step a).2.queue.length + r.granted.length ≤ (r.service.step a).2.capacity
    have hroom := h.room
    unfold taken at hroom
    omega
  · exact fun send mem => holds_step (h.held send mem) (others send mem)

theorem release (h : r.InPlace) (handle : Nat) : (r.release handle).InPlace :=
  h.fewer List.filter_sublist List.filter_sublist

theorem round (h : r.InPlace) : (r.perform .round).InPlace := by
  obtain ⟨hcapacity, hqueue⟩ := r.service.drains_round
  constructor
  · show r.service.round.2.queue.length + r.granted.length ≤ r.service.round.2.capacity
    have hroom := h.room
    unfold taken at hroom
    omega
  · exact fun send mem => r.service.untouched_round.holds (h.held send mem)

theorem perform (h : r.InPlace) (move : Move) : (r.perform move).InPlace := by
  cases move with
  | act name a =>
    cases a with
    | trySend handle key => exact h.attempt _ false
    | send handle key => exact h.attempt _ true
    | drop handle =>
      refine (h.release handle).beside rfl ?_
      intro send mem same
      -- a send through this handle has been given up
      have hhandle : send.handle ≠ handle := by
        rcases List.mem_append.mp mem with granted | waiting
        · simpa using (List.mem_filter.mp granted).2
        · simpa using (List.mem_filter.mp waiting).2
      exact hhandle (Action.drop.inj same).symm
    | _ => exact h.beside rfl fun _ _ => nofun
  | beginSend name handle key => exact h.attempt _ true
  | retry name => exact h.resume name
  | giveUp name => exact h.leave name
  | round => exact h.round

/-- **Every move keeps a reserving service in place.** -/
theorem next (h : r.InPlace) (move : Move) : (r.next move).InPlace := (h.perform move).handOver

theorem run (h : r.InPlace) (moves : List Move) : (r.run moves).InPlace := by
  induction moves generalizing r with
  | nil => exact h
  | cons move rest ih => exact ih (h.next move)

end InPlace

/-! ## The plain queue -/

/-- **Where the plain queue has come to**, when nothing waits for it. -/
def shadow (r : Reserving) : Moment := ⟨r.service, [], r.accepted, r.handled⟩

/-- The send without waiting that brings the keystroke of another. -/
def sendNow (send : Waiter) : Move := .act send.name (.trySend send.handle send.key)

/-- What the plain queue is asked when a send begins: nothing, unless the send is accepted. -/
def plainAttempt (r : Reserving) (send : Waiter) : List Move :=
  if r.serves send && r.taken < r.service.capacity then [sendNow send] else []

/-- **What the plain queue is asked** in place of a move. -/
def plain (r : Reserving) : Move → List Move
  | .act name (.trySend handle key) => r.plainAttempt ⟨name, handle, key⟩
  | .act name (.send handle key) => r.plainAttempt ⟨name, handle, key⟩
  | .act name a => [.act name a]
  | .beginSend name handle key => r.plainAttempt ⟨name, handle, key⟩
  | .retry name =>
    if r.service.phase.isOpen then
      (r.granted.find? (·.name = name)).toList.map sendNow
    else []
  | .giveUp _ => []
  | .round => [.round]

/-- What the plain queue is asked in place of moves, one after another. -/
def plainAll (r : Reserving) : List Move → List Move
  | [] => []
  | move :: rest => r.plain move ++ (r.next move).plainAll rest

theorem shadow_accept {send : Waiter} (serves : r.serves send)
    (room : r.service.queue.length < r.service.capacity) :
    r.shadow.next (sendNow send) = (r.accept send).shadow := by
  obtain ⟨held, isOpen⟩ := Bool.and_eq_true_iff.mp serves
  have hsend : r.service.trySend send.key =
      .ok { r.service with queue := r.service.queue ++ [send.key] } := by
    rw [Service.trySend, isOpen, if_neg (by decide), if_neg (Nat.not_le.mpr room)]
  have hstep : r.service.step (.trySend send.handle send.key) =
      (.accepted, { r.service with queue := r.service.queue ++ [send.key] }) := by
    simp only [Service.step, lacksHandle, Action.handle?, held, act, hsend]
    rfl
  simp only [shadow, sendNow, Moment.next, hstep, stepHandled, takesTurn, Bool.and_false]
  simp [accept, Answer.keystrokes]

theorem shadow_beside {a : Action} (silent : a.sends = false) (name : Nat) :
    r.shadow.next (.act name a) = (r.beside a).shadow := by
  show Moment.mk _ _ (r.accepted ++ _) _ = Moment.mk _ _ r.accepted _
  rw [keystrokes_of_silent silent, List.map_nil, List.append_nil]
  rfl

theorem shadow_attempt (r : Reserving) (send : Waiter) (waits : Bool) :
    r.shadow.run (r.plainAttempt send) = (r.attempt send waits).shadow := by
  unfold plainAttempt attempt
  cases hserves : r.serves send with
  | false => rfl
  | true =>
    by_cases free : r.taken < r.service.capacity
    · simp only [free, decide_true, Bool.and_true, if_true, Bool.not_true, Bool.false_eq_true,
        if_false]
      exact shadow_accept hserves (Nat.lt_of_le_of_lt (Nat.le_add_right _ _) free)
    · simp only [free, decide_false, Bool.and_false, Bool.false_eq_true, if_false, Bool.not_true]
      split <;> rfl

theorem InPlace.shadow_resume (h : r.InPlace) (name : Nat) :
    r.shadow.run (r.plain (.retry name)) = (r.resume name).shadow := by
  unfold plain Reserving.resume
  cases isOpen : r.service.phase.isOpen with
  | false => rfl
  | true =>
    simp only [if_true, Bool.not_true, Bool.false_eq_true, if_false]
    cases found : r.granted.find? (·.name = name) with
    | none => rfl
    | some send =>
      have hmem := List.mem_of_find?_eq_some found
      have serves : r.serves send :=
        Bool.and_eq_true_iff.mpr ⟨h.held send (List.mem_append_left _ hmem), isOpen⟩
      have free := Nat.lt_of_le_of_lt (Nat.le_add_right _ _) (h.free_of_granted found)
      exact shadow_accept serves free

/-- **One move** of the reserving queue is what the plain one is asked in its place. -/
theorem InPlace.shadow_next (h : r.InPlace) (move : Move) :
    r.shadow.run (r.plain move) = (r.next move).shadow := by
  show _ = (r.perform move).shadow
  cases move with
  | act name a =>
    cases a with
    | trySend handle key => exact r.shadow_attempt _ false
    | send handle key => exact r.shadow_attempt _ true
    | _ => exact shadow_beside rfl name
  | beginSend name handle key => exact r.shadow_attempt _ true
  | retry name => exact h.shadow_resume name
  | giveUp name => rfl
  | round => rfl

/-- **A schedule of the reserving queue is one of the plain queue.** -/
theorem InPlace.run_shadow (h : r.InPlace) (moves : List Move) :
    r.shadow.run (r.plainAll moves) = (r.run moves).shadow := by
  induction moves generalizing r with
  | nil => rfl
  | cons move rest ih =>
    show r.shadow.run (r.plain move ++ (r.next move).plainAll rest) = _
    rw [Moment.run, List.foldl_append]
    show (r.shadow.run (r.plain move)).run _ = _
    rw [h.shadow_next]
    exact ih (h.next move)

theorem run_line (line : r.waiting = [] ∨ r.service.capacity ≤ r.taken) (moves : List Move) :
    (r.run moves).waiting = [] ∨ (r.run moves).service.capacity ≤ (r.run moves).taken := by
  induction moves generalizing r with
  | nil => exact line
  | cons move rest ih => exact ih (r.perform move).waiting_handOver

/-- **Keeping places changes nothing but who is refused.** A service with a reserving queue was new,
and a schedule has come to some moment. The plain queue comes there too, with the same keystrokes
accepted and handled, under some schedule; so the service is in order. No more places are taken than
there are, and a send waits only as long as all of them are. -/
theorem run_reserving (calculator : Calculator) (capacity : Nat) (moves : List Move) :
    let r := Reserving.run { service := new calculator capacity } moves
    (∃ plain, Moment.run { service := new calculator capacity } plain = r.shadow) ∧
      r.shadow.InOrder (new calculator capacity) ∧
      r.taken ≤ max capacity 1 ∧ (r.waiting = [] ∨ r.taken = max capacity 1) := by
  intro r
  have begun : InPlace { service := new calculator capacity } := ⟨Nat.zero_le _, nofun⟩
  have hplain := begun.run_shadow moves
  have horder : Moment.InOrder (new calculator capacity) { service := new calculator capacity } :=
    inOrder_new calculator capacity
  have order : r.shadow.InOrder (new calculator capacity) := by
    rw [← hplain]
    exact horder.run _
  have hcapacity : r.service.capacity = max capacity 1 := order.capacity
  have hroom : r.taken ≤ max capacity 1 := hcapacity ▸ (begun.run moves).room
  refine ⟨⟨_, hplain⟩, order, hroom, ?_⟩
  have line : r.waiting = [] ∨ r.service.capacity ≤ r.taken := run_line (.inl rfl) moves
  rw [hcapacity] at line
  exact line.imp_right (Nat.le_antisymm hroom)

/-- A place that falls free is kept for the send that waits. One without waiting finds the queue
full, though there is nothing in it, and the one that waits goes on. -/
example :
    let r := Reserving.run { service := new (.fresh {}) 1 }
      [.act 0 .start, .act 1 (.trySend 0 (.digit '1')), .beginSend 2 0 (.digit '2'), .round,
        .act 3 (.trySend 0 (.digit '3'))]
    r.service.queue = [] ∧ (r.run [.retry 2, .round]).handled = [.digit '1', .digit '2'] := by
  decide

end Reserving

end PocketCalc.Service
