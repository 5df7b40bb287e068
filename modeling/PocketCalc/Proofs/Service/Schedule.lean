import PocketCalc.Proofs.Service.Turn

/-!
# Schedules

A run does one action after another, and each is done when it is answered. A **schedule** is finer:
a send that finds no room waits, while anything else goes on, until it finds room or is given up;
and the task has its rounds one by one. What happens next is a `Move`, and where a schedule has come
to is a `Moment`: the service, the sends that wait, and the two histories.

Every send has a name, by which it is tried again or given up. Names have no other use, and need not
differ.

What a schedule tells the log is what its moves tell, one after the other (`Moment.told`).

**The law** (`run_act`, `told_act`): a schedule of actions alone is a run, and tells what it tells.

**What it does not establish.** Who comes first when several sends wait. The queue is a plain bounded
one: a place that falls free is not kept for the send that has waited longest, but is free for
whoever looks first, be it a send that waits or one that does not. A queue that keeps such a place
refuses some sends as full that are accepted here: see `Reserving`.
-/

namespace PocketCalc.Service

/-- **What can happen next.** -/
inductive Move where
  /-- An action, as a run has it. -/
  | act (name : Nat) (a : Action)
  /-- A send with waiting begins. -/
  | beginSend (name handle : Nat) (key : Keystroke)
  /-- A send that waits looks for room again. -/
  | retry (name : Nat)
  /-- A send that waits is given up. -/
  | giveUp (name : Nat)
  /-- The task has one round. -/
  | round

/-- **Where a schedule has come to.** -/
structure Moment where
  service : Service
  /-- The sends that wait, each with its keystroke. -/
  waiting : List (Nat × Keystroke) := []
  /-- The keystrokes that were accepted, in order, each with the name of its send. -/
  accepted : List (Nat × Keystroke) := []
  /-- The keystrokes that were handled, in order. -/
  handled : List Keystroke := []

namespace Moment

/-- The keystrokes that were accepted, in order. -/
def acceptedKeys (m : Moment) : List Keystroke := m.accepted.map Prod.snd

/-- **A send looks for room**, and takes what is free, though others may have waited longer. It is
accepted, or refused, or waits. -/
def attempt (m : Moment) (name : Nat) (key : Keystroke) : Moment :=
  match m.service.trySend key with
  | .ok after => { m with service := after, accepted := m.accepted ++ [(name, key)] }
  | .error .closed => m
  | .error .full => { m with waiting := m.waiting ++ [(name, key)] }

/-- A send of this name waits no longer. -/
def leave (m : Moment) (name : Nat) : Moment :=
  { m with waiting := m.waiting.eraseP (·.1 = name) }

/-- **One move.** A send through a handle that is not held does not begin. -/
def next (m : Moment) : Move → Moment
  | .act name a =>
    { m with
      service := (m.service.step a).2
      accepted := m.accepted ++ ((m.service.step a).1.keystrokes a).map fun key => (name, key)
      handled := m.handled ++ m.service.stepHandled a }
  | .beginSend name handle key => if m.service.holds handle then m.attempt name key else m
  | .retry name =>
    match m.waiting.find? (·.1 = name) with
    | some send => (m.leave name).attempt send.1 send.2
    | none => m
  | .giveUp name => m.leave name
  | .round =>
    { m with service := m.service.round.2, handled := m.handled ++ m.service.round.1 }

/-- Moves one after another. -/
def run (m : Moment) (moves : List Move) : Moment := moves.foldl next m

/-! ## Runs are schedules -/

/-- **A schedule of actions alone is a run.** -/
theorem run_act (s : Service) (actions : List Action) :
    let m := (Moment.mk s [] [] []).run (actions.map (.act 0))
    let history := s.run actions
    m.service = history.service ∧ m.acceptedKeys = history.accepted ∧
      m.handled = history.handled := by
  have follow : ∀ (m : Moment) (history : History), m.service = history.service →
      m.acceptedKeys = history.accepted → m.handled = history.handled →
      let after := m.run (actions.map (.act 0))
      let historyAfter := actions.foldl History.add history
      after.service = historyAfter.service ∧ after.acceptedKeys = historyAfter.accepted ∧
        after.handled = historyAfter.handled := by
    induction actions with
    | nil =>
      intro m history hservice haccepted hhandled
      exact ⟨hservice, haccepted, hhandled⟩
    | cons a rest ih =>
      intro m history hservice haccepted hhandled
      apply ih (m.next (.act 0 a)) (history.add a)
      · simp only [next, History.add, hservice]
      · simp only [acceptedKeys] at haccepted
        simp [acceptedKeys, next, History.add, hservice, haccepted, Function.comp_def]
      · simp only [next, History.add, hservice, hhandled]
  exact follow ⟨s, [], [], []⟩ ⟨s, [], [], []⟩ rfl rfl rfl

/-! ## What a schedule tells the log -/

/-- What a move tells the log. -/
def moveEvents (m : Moment) : Move → List Log.Event
  | .act _ a => m.service.stepEvents a
  | .round => m.service.roundEvents
  | _ => []

/-- **What moves tell the log**, one after another. -/
def told (m : Moment) : List Move → List Log.Event
  | [] => []
  | move :: rest => m.moveEvents move ++ (m.next move).told rest

/-- **A schedule of actions alone tells what a run tells.** -/
theorem told_act (s : Service) (actions : List Action) :
    (Moment.mk s [] [] []).told (actions.map (.act 0)) = (s.run actions).events := by
  have follow : ∀ (m : Moment) (history : History), m.service = history.service →
      history.events ++ m.told (actions.map (.act 0)) =
        (actions.foldl History.add history).events := by
    induction actions with
    | nil => exact fun _ _ _ => List.append_nil _
    | cons a rest ih =>
      intro m history hservice
      have hrest := ih (m.next (.act 0 a)) (history.add a)
        (by simp only [next, History.add, hservice])
      rw [List.foldl_cons, ← hrest, List.map_cons, told, ← List.append_assoc]
      simp only [moveEvents, History.add, hservice]
  exact follow ⟨s, [], [], []⟩ ⟨s, [], [], []⟩ rfl

end Moment

end PocketCalc.Service
