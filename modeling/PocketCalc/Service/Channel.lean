import PocketCalc.Service.Run

/-!
# Requests to shut down, as a channel

A request to shut down goes through a **channel** that has room for one. Every handle has a sender
of it, and the service the only reader. The service keeps a sender too, so that the channel stays
open when the last handle goes. A request that is not read before the next one comes is lost, and
the reader is told how many are. In each round the task reads first, without waiting, and ends on
whatever there is to read: a request, the number of those that were lost, or that the channel is
closed.

A `Service` has a flag in place of all this. A **wired** service has the channel, and looks at no
flag.

**What it does not establish.** That a wired service does what the service with the flag does: see
`Service.WiredMoment.run_matches`. That a request wakes a task that waits: rounds happen when
whoever runs the service lets them.
-/

namespace PocketCalc.Service

/-! ## The channel -/

/-- **The channel for requests to shut down.** -/
structure Channel where
  /-- The requests that were ever sent to a reader. -/
  sent : Nat := 0
  /-- Where the reader stands. -/
  read : Nat := 0
  /-- For each handle ever made, whether its sender is still there. -/
  senders : List Bool := [true]
  /-- The sender that the service keeps is still there. -/
  kept : Bool := true
  /-- The reader is still there. -/
  reader : Bool := true
  deriving DecidableEq, Repr

namespace Channel

/-- **What there is to read.** -/
inductive Reading where
  | request
  /-- So many requests were lost. -/
  | lagged (missed : Nat)
  /-- Nothing any more: there is no sender. -/
  | closed
  /-- Nothing yet. -/
  | pending
  deriving DecidableEq, Repr

/-- A request is sent; without a reader it goes nowhere. -/
def send (c : Channel) : Channel := if c.reader then { c with sent := c.sent + 1 } else c

def anySender (c : Channel) : Bool := c.kept || c.senders.any id

/-- **Reading without waiting**: what there is, and the channel after it. -/
def poll (c : Channel) : Reading × Channel :=
  if c.read + 1 < c.sent then (.lagged (c.sent - 1 - c.read), { c with read := c.sent - 1 })
  else if c.read < c.sent then (.request, { c with read := c.read + 1 })
  else if c.anySender then (.pending, c)
  else (.closed, c)

/-- A sender for one more handle. -/
def addSender (c : Channel) : Channel := { c with senders := c.senders ++ [true] }

/-- The sender of a handle goes. -/
def release (c : Channel) (handle : Nat) : Channel :=
  { c with senders := c.senders.set handle false }

/-- The service goes, with its reader and the sender that it keeps. -/
def close (c : Channel) : Channel := { c with kept := false, reader := false }

end Channel

/-! ## A service with the channel -/

/-- **A service that is asked through a channel.** The flag of the service itself is never set. -/
structure Wired where
  service : Service
  channel : Channel := {}

namespace Wired

/-- **One round of the task**: what it has handled, and the service after it. -/
def round (w : Wired) : List Keystroke × Wired :=
  match w.service.phase with
  | .running _ =>
    match w.channel.poll with
    | (.pending, channel) =>
      match w.service.queue with
      | key :: rest =>
        ([key], ⟨{ w.service.handle key with queue := rest, phase := .running true }, channel⟩)
      | [] =>
        if w.service.anyHandle then ([], ⟨{ w.service with phase := .running true }, channel⟩)
        else ([], ⟨{ w.service with phase := .finished }, channel.close⟩)
    | (_, channel) => ([], ⟨{ w.service with phase := .finished, queue := [] }, channel.close⟩)
  | _ => ([], w)

/-- Rounds one right after the other. -/
def rounds : Nat → Wired → List Keystroke × Wired
  | 0, w => ([], w)
  | n + 1, w => (w.round.1 ++ (rounds n w.round.2).1, (rounds n w.round.2).2)

/-- **A turn**: the rounds it takes to empty the queue, and one more. -/
def turn (w : Wired) : List Keystroke × Wired := rounds (w.service.queue.length + 1) w

/-- **Sending with waiting**: the answer, what was handled meanwhile, and the service after it. -/
def send (w : Wired) (key : Keystroke) : Answer × List Keystroke × Wired :=
  match w.service.trySend key with
  | .ok after => (.accepted, [], { w with service := after })
  | .error .closed => (.refused .closed, [], w)
  | .error .full =>
    if w.service.isRunning then
      match w.turn.2.service.trySend key with
      | .ok after => (.accepted, w.turn.1, { w.turn.2 with service := after })
      | .error _ => (.refused .closed, w.turn.1, w.turn.2)
    else (.givenUp, [], w)

/-- What an action does that needs no handle or has one. -/
def act (w : Wired) : Action → Answer × List Keystroke × Wired
  | .send _ key => w.send key
  | .clone _ => (.number w.service.clone.1, [], ⟨w.service.clone.2, w.channel.addSender⟩)
  | .drop h => (.done, [], ⟨w.service.drop h, w.channel.release h⟩)
  | .shutdown _ => (.done, [], { w with channel := w.channel.send })
  | .stop =>
    (.done, [],
      ⟨w.service.stop, if w.service.phase = .waiting then w.channel.close else w.channel⟩)
  | .turn => (.running w.turn.2.service.isRunning, w.turn.1, w.turn.2)
  | a => ((w.service.act a).1, [], { w with service := (w.service.act a).2 })

def step (w : Wired) (a : Action) : Answer × List Keystroke × Wired :=
  if w.service.lacksHandle a then (.noHandle, [], w) else w.act a

end Wired

end PocketCalc.Service
