import PocketCalc.Calculator.Trace
import PocketCalc.Service.Stream

/-!
# The service

A service owns a calculator and a bounded queue of keystrokes. Any number of **handles** put
keystrokes into the queue; the service's **task** takes them out in order, one at a time, and
publishes an update after each. The task runs in **turns**: a turn lasts until the task ends or has
nothing to do.

**How a task ends.** It looks for a request to shut down before each keystroke, and ends on one
without handling what is queued. Without a request it ends when every handle has been dropped and
the queue is empty, so that nothing that was accepted is lost.

**What it does not establish.** When turns happen: that is the choice of whoever runs the service.
-/

namespace PocketCalc

/-- **Why a keystroke was refused.** -/
inductive SendError where
  /-- The service has ended, or was never run and is gone. -/
  | closed
  /-- The queue holds as many keystrokes as it can. -/
  | full
  deriving DecidableEq, Repr

def SendError.message : SendError → String
  | closed => "calculator service has stopped"
  | full => "keystroke queue is full"

/-- **The life of a service's task.** -/
inductive Phase where
  | waiting
  | running (announced : Bool)
  /-- Ended, and nobody has asked for the calculator yet. -/
  | finished
  /-- Ended, and the calculator handed over. -/
  | collected
  /-- Dropped before it was started. -/
  | discarded
  deriving DecidableEq, Repr

/-- Keystrokes can still be handled, now or after a start. -/
def Phase.isOpen : Phase → Bool
  | waiting => true
  | running _ => true
  | _ => false

/-- **A service**, its handles and its subscriptions. -/
structure Service where
  calculator : Calculator
  capacity : Nat
  /-- The keystrokes that wait, the oldest first. -/
  queue : List Keystroke := []
  phase : Phase := .waiting
  /-- The task finds a request to shut down when it looks. The flag stands for a channel, which is
  where it looks. -/
  shutdownRequested : Bool := false
  /-- For each handle ever made, whether it is still held. -/
  handles : List Bool := [true]
  stream : Stream
  /-- For each subscription, where its reader stands. -/
  cursors : List Nat := []
  deriving Repr

namespace Service

def target : String := "calcpad_core::service"

/-- A service that was not started, with one handle. A capacity of zero counts as one. -/
def new (calculator : Calculator) (capacity : Nat) : Service :=
  { calculator, capacity := max capacity 1, stream := .new (max capacity 1) }

/-- A service that was not started, with room for its queue and its stream from the start. -/
def allocate (calculator : Calculator) (capacity : Nat) : Except LimitError Service :=
  if maxWaiting < capacity then .error .waiting
  else (Stream.allocate (max capacity 1)).map fun _ => new calculator capacity

/-- A service with a fresh calculator, as the settings want it. -/
def ofSettings (s : Settings) : Service := new (.fresh s.display) s.queue.capacity.toNat

/-- The service that the settings want, with room for everything from the start. -/
def allocateFor (s : Settings) : Except LimitError Service :=
  allocate (.fresh s.display) s.queue.capacity.toNat

/-! ## Handles -/

def holds (s : Service) (handle : Nat) : Bool := s.handles[handle]?.getD false

def anyHandle (s : Service) : Bool := s.handles.any id

/-- Makes one more handle, and answers its number. -/
def clone (s : Service) : Nat × Service :=
  (s.handles.length, { s with handles := s.handles ++ [true] })

def drop (s : Service) (handle : Nat) : Service := { s with handles := s.handles.set handle false }

def requestShutdown (s : Service) : Service := { s with shutdownRequested := true }

/-! ## The task -/

/-- One keystroke, and the update after it. -/
def handle (s : Service) (key : Keystroke) : Service :=
  let calculator := s.calculator.press key
  { s with calculator, stream := s.stream.publish (.of calculator) }

/-- The keystrokes that the next turn handles. -/
def upcoming (s : Service) : List Keystroke :=
  match s.phase with
  | .running _ => if s.shutdownRequested then [] else s.queue
  | _ => []

/-- The next turn is the task's last. -/
def endsNext (s : Service) : Bool :=
  match s.phase with
  | .running _ => s.shutdownRequested || !s.anyHandle
  | _ => false

/-- **A turn of the task.** Nothing happens unless the task has been started and has not ended. -/
def turn (s : Service) : Service :=
  match s.phase with
  | .running _ =>
    let after := s.upcoming.foldl handle s
    { after with
      queue := []
      phase := if s.endsNext then .finished else .running true }
  | _ => s

def startingEvent (c : Calculator) : Log.Event :=
  .of .info target "calculator service starting" [("buffer", String.ofList c.buffer)]

/-- Why the task ends. -/
def endingEvent (s : Service) : Log.Event :=
  if s.shutdownRequested then .of .info target "shutdown requested, stopping calculator service"
  else .of .debug target "all handles dropped"

def stoppedEvent (c : Calculator) : Log.Event :=
  .of .info target "calculator service stopped" [("buffer", String.ofList c.buffer)]

/-- **What a turn tells the log.** -/
def turnEvents (s : Service) : List Log.Event :=
  match s.phase with
  | .running announced =>
    let starting := if announced then [] else [startingEvent s.calculator]
    let ending := if s.endsNext then [s.endingEvent, stoppedEvent s.turn.calculator] else []
    starting ++ s.calculator.eventsAll s.upcoming ++ ending
  | _ => []

/-- Starts the task; answers whether there was one to start. -/
def start (s : Service) : Bool × Service :=
  match s.phase with
  | .waiting => (true, { s with phase := .running false })
  | _ => (false, s)

/-- Drops a service whose task was not started. -/
def stop (s : Service) : Service :=
  match s.phase with
  | .waiting => { s with phase := .discarded, queue := [] }
  | _ => s

/-- A task that was started has not ended. -/
def isRunning (s : Service) : Bool :=
  match s.phase with
  | .running _ => true
  | _ => false

/-! ## Sending -/

/-- **Sending without waiting.** That nobody will handle a keystroke is found before that there is
no room for it. There is room wherever the queue holds fewer keystrokes than it can: the answer is
that of a plain bounded queue, in which no place is kept for a send that waits. -/
def trySend (s : Service) (key : Keystroke) : Except SendError Service :=
  if !s.phase.isOpen then .error .closed
  else if s.capacity ≤ s.queue.length then .error .full
  else .ok { s with queue := s.queue ++ [key] }

/-- **How a waiting send ends.** -/
inductive Sent where
  /-- The keystroke is queued. -/
  | accepted
  /-- Nobody will handle it. -/
  | closed
  /-- There was no room, and no task to make any; the keystroke is given up. -/
  | givenUp
  deriving DecidableEq, Repr

/-- **Sending with waiting.** Where there is no room, a task that runs gets a turn first. -/
def send (s : Service) (key : Keystroke) : Sent × Service :=
  match s.trySend key with
  | .ok after => (.accepted, after)
  | .error .closed => (.closed, s)
  | .error .full =>
    if s.isRunning then
      match s.turn.trySend key with
      | .ok after => (.accepted, after)
      | .error _ => (.closed, s.turn)
    else (.givenUp, s)

/-! ## Subscriptions -/

/-- Subscribes to the updates from now on, and answers the number of the subscription. -/
def subscribe (s : Service) : Nat × Service :=
  (s.cursors.length, { s with cursors := s.cursors ++ [s.stream.published] })

/-- **What a subscriber gets.** -/
inductive Received where
  | update (u : Update)
  /-- So many updates were lost. -/
  | lagged (missed : Nat)
  | empty
  /-- Nothing any more: no service and no handle is left that could bring an update. -/
  | closed
  deriving DecidableEq, Repr

/-- Updates can still come, as far as a subscriber knows. -/
def mayPublish (s : Service) : Bool := s.phase.isOpen || s.anyHandle

/-- What a receipt means to a subscriber. -/
def Received.of (mayPublish : Bool) : Stream.Receipt → Received
  | .update u => .update u
  | .lagged missed => .lagged missed
  | .caughtUp => if mayPublish then .empty else .closed

/-- **One reading of a subscription.** -/
def receive (s : Service) (subscription : Nat) : Received × Service :=
  let (receipt, next) := s.stream.receive (s.cursors[subscription]?.getD s.stream.published)
  (.of s.mayPublish receipt, { s with cursors := s.cursors.set subscription next })

/-! ## Collecting -/

/-- **How a task stands** when its calculator is asked for. -/
inductive Joined where
  /-- It has ended with this calculator. -/
  | ended (calculator : Calculator)
  | running
  /-- It was never started, or its calculator was handed over before. -/
  | none
  deriving Repr

/-- Asks for the calculator of an ended task; it is handed over once. -/
def collect (s : Service) : Joined × Service :=
  match s.phase with
  | .finished => (.ended s.calculator, { s with phase := .collected })
  | .running _ => (.running, s)
  | _ => (.none, s)

end Service

end PocketCalc
