import PocketCalc.Service.Basic

/-!
# Runs of a service

Everything that can be done to a service, as data, so that a run is a list of actions in any order.
A run leaves **histories** behind: the keystrokes that were accepted, those that were handled, and
what the log was told.

**Dropped handles.** A handle that was dropped can do nothing more, so an action through one changes
nothing and is answered `noHandle`; dropping it again changes nothing either, and is no fault.
-/

namespace PocketCalc.Service

/-- **What can be done to a service.** -/
inductive Action where
  | trySend (handle : Nat) (key : Keystroke)
  | send (handle : Nat) (key : Keystroke)
  | clone (handle : Nat)
  | drop (handle : Nat)
  | subscribe (handle : Nat)
  | receive (subscription : Nat)
  | shutdown (handle : Nat)
  | start
  | stop
  | turn
  | collect
  deriving DecidableEq, Repr

/-- **What an action is answered.** -/
inductive Answer where
  /-- There is nothing to tell. -/
  | done
  /-- The keystroke is queued. -/
  | accepted
  | refused (e : SendError)
  | givenUp
  /-- The number of a new handle or subscription. -/
  | number (n : Nat)
  | received (r : Received)
  | started (b : Bool)
  | running (b : Bool)
  | joined (j : Joined)
  | noHandle
  deriving Repr

/-- The handle that an action goes through. -/
def Action.handle? : Action → Option Nat
  | trySend h _ => some h
  | send h _ => some h
  | clone h => some h
  | subscribe h => some h
  | shutdown h => some h
  | _ => none

/-- The action goes through a handle that is not held. -/
def lacksHandle (s : Service) (a : Action) : Bool :=
  match a.handle? with
  | some h => !s.holds h
  | none => false

/-- What an action does that needs no handle or has one. -/
def act (s : Service) : Action → Answer × Service
  | .trySend _ key =>
    match s.trySend key with
    | .ok after => (.accepted, after)
    | .error e => (.refused e, s)
  | .send _ key =>
    match s.send key with
    | (.accepted, after) => (.accepted, after)
    | (.closed, after) => (.refused .closed, after)
    | (.givenUp, after) => (.givenUp, after)
  | .clone _ => (.number s.clone.1, s.clone.2)
  | .drop h => (.done, s.drop h)
  | .subscribe _ => (.number s.subscribe.1, s.subscribe.2)
  | .receive i => (.received (s.receive i).1, (s.receive i).2)
  | .shutdown _ => (.done, s.requestShutdown)
  | .start => (.started s.start.1, s.start.2)
  | .stop => (.done, s.stop)
  | .turn => (.running s.turn.isRunning, s.turn)
  | .collect => (.joined s.collect.1, s.collect.2)

def step (s : Service) (a : Action) : Answer × Service :=
  if s.lacksHandle a then (.noHandle, s) else s.act a

/-! ## Histories -/

/-- The action lets the task take a turn. -/
def takesTurn (s : Service) (a : Action) : Bool :=
  !s.lacksHandle a &&
    match a with
    | .turn => true
    | .send _ key =>
      match s.trySend key with
      | .error .full => true
      | _ => false
    | _ => false

/-- The keystrokes that an action has handled. -/
def stepHandled (s : Service) (a : Action) : List Keystroke :=
  if s.takesTurn a then s.upcoming else []

def stepEvents (s : Service) (a : Action) : List Log.Event :=
  if s.takesTurn a then s.turnEvents else []

/-- The keystroke that an action with this answer has put into the queue. -/
def Answer.keystrokes : Action → Answer → List Keystroke
  | .trySend _ key, .accepted => [key]
  | .send _ key, .accepted => [key]
  | _, _ => []

/-- **What a run has left behind.** -/
structure History where
  service : Service
  /-- The keystrokes that were accepted, in order. -/
  accepted : List Keystroke := []
  /-- The keystrokes that were handled, in order. -/
  handled : List Keystroke := []
  events : List Log.Event := []
  deriving Repr

def History.add (h : History) (a : Action) : History :=
  let (answer, service) := h.service.step a
  { service
    accepted := h.accepted ++ answer.keystrokes a
    handled := h.handled ++ h.service.stepHandled a
    events := h.events ++ h.service.stepEvents a }

/-- **The history of a run** of actions from a service. -/
def run (s : Service) (actions : List Action) : History :=
  actions.foldl History.add { service := s }

end PocketCalc.Service
