import PocketCalc.Keymap
import PocketCalc.Panel.Display
import PocketCalc.Panel.Keypad
import PocketCalc.Panel.Logs
import PocketCalc.Service.Basic

/-!
# The keypad on the screen

The whole of the program on the screen: a service, and a subscription to it that is the program's
own; the log that everything writes to; the keyboard; and the panels. Keys are sent to the service
without waiting; what the service has done comes to the display at the next **tick**.

**Ticks.** A tick reads the subscription until nothing is left, so that the display shows the newest
update however many were lost on the way, and then takes a new snapshot of the log.

**What it does not establish.** When ticks and turns of the service happen.
-/

namespace PocketCalc

open Screen (Style Row)

/-- **The panel under the display.** -/
inductive Tab where
  | keypad
  | logs
  deriving DecidableEq, Repr, Inhabited

def Tab.title : Tab → String
  | keypad => "Keypad"
  | logs => "Logs"

def Tab.next : Tab → Tab
  | keypad => logs
  | logs => keypad

/-- **The program on the screen.** -/
structure App where
  service : Service
  /-- The number of the program's own subscription. -/
  subscription : Nat
  log : Log.Collector
  keymap : Keymap := {}
  tab : Tab := .keypad
  display : Panel.Display := {}
  keypad : Panel.Keypad := {}
  logs : Panel.Logs := {}
  /-- The program is to end. -/
  quitting : Bool := false
  deriving Repr

namespace App

/-- The part of the log that the program itself writes to. -/
def target : String := "calcpad::app"

/-- The program over a service and a log, with one more subscription to the service. -/
def new (service : Service) (log : Log.Collector) : App :=
  { service := service.subscribe.2, subscription := service.subscribe.1, log }

/-- The program as the settings want it; a level without a name is that of the default settings. -/
def ofSettings (s : Settings) : App :=
  new (.ofSettings s)
    (.new ((Log.Level.ofName? s.logging.level).getD .info) s.logging.capacity.toNat)

/-- The program as the settings want it, with room for the log and the service from the start. -/
def allocateFor (s : Settings) : Except LimitError App := do
  let threshold := (Log.Level.ofName? s.logging.level).getD .info
  let log ← Log.Collector.allocate threshold s.logging.capacity.toNat
  let service ← Service.allocateFor s
  return new service log

/-! ## Keys -/

def droppedEvent (key : Keystroke) : Log.Event :=
  .of .warn target "keystroke dropped, queue full" [("event", key.text)]

/-- **A keystroke for the calculator**: it is queued; or, the queue being full, dropped with a word
to the log; or, the service having ended, it ends the program. -/
def send (a : App) (key : Keystroke) : App :=
  let a := { a with keypad := a.keypad.press key }
  match a.service.trySend key with
  | .ok service => { a with service }
  | .error .full => { a with log := a.log.record (droppedEvent key) }
  | .error .closed => { a with quitting := true }

/-- **What an action does.** -/
def perform (a : App) : Action → App
  | .calculate key => a.send key
  | .quit => { a with quitting := true }
  | .nextPanel => { a with tab := a.tab.next }
  | .scrollDown => { a with logs := a.logs.scrollDown 1 }
  | .scrollUp => { a with logs := a.logs.scrollUp 1 }
  | .scrollToTop => { a with logs := a.logs.scrollToTop }
  | .scrollToBottom => { a with logs := a.logs.scrollToBottom }
  | .nothing => a

/-- A key, and the action that it stood for. -/
def press (a : App) (key : Key) : Action × App :=
  let (action, keymap) := a.keymap.resolve key
  (action, { a with keymap }.perform action)

/-! ## Ticks -/

def laggedEvent (missed : Nat) : Log.Event :=
  .of .warn target "display updates lagged" [("skipped", toString missed)]

def accept (a : App) : Stream.Receipt → App
  | .update u => { a with display := a.display.update u }
  | .lagged missed => { a with log := a.log.record (laggedEvent missed) }
  | .caughtUp => a

/-- Reads the subscription until it is caught up. Where no update can come any more, the program
ends. -/
def drain (a : App) : App :=
  let s := a.service
  let cursor := s.cursors[a.subscription]?.getD s.stream.published
  let (receipts, last) := s.stream.drain cursor
  let after := receipts.foldl accept a
  { after with
    service := { s with cursors := s.cursors.set a.subscription last }
    quitting := after.quitting || !s.mayPublish }

/-- **A tick**: the updates, and then a new snapshot of the log. -/
def tick (a : App) : App :=
  let after := a.drain
  { after with logs := after.logs.refresh after.log.entries }

/-! ## The service -/

def start (a : App) : App := { a with service := a.service.start.2 }

def stop (a : App) : App := { a with service := a.service.stop }

def shutdown (a : App) : App := { a with service := a.service.requestShutdown }

def turn (a : App) : App :=
  { a with service := a.service.turn, log := a.log.recordAll a.service.turnEvents }

/-! ## Runs -/

/-- **What can happen to the program.** -/
inductive Input where
  | key (k : Key)
  | tick
  | turn
  | start
  | stop
  | shutdown
  deriving DecidableEq, Repr

def step (a : App) : Input → App
  | .key k => (a.press k).2
  | .tick => a.tick
  | .turn => a.turn
  | .start => a.start
  | .stop => a.stop
  | .shutdown => a.shutdown

def run (a : App) (inputs : List Input) : App := inputs.foldl step a

/-! ## Drawing -/

def statusLine (a : App) : String :=
  " q:quit  c:clear  bksp:delete  n:+/-  Tab:panel  j/k/gg/G:scroll  [" ++ a.tab.title ++ "]"

/-- The foot of the screen: a line across, and the status. -/
def drawStatus (a : App) (width height : Nat) : List Row :=
  let style : Style := { fg := .darkGray }
  [List.replicate width ⟨['─'], style⟩,
    Screen.fit style width (Screen.cells style a.statusLine.toList)].take height

def drawTab (a : App) (width height : Nat) : List Row :=
  match a.tab with
  | .keypad => a.keypad.draw width height
  | .logs => a.logs.draw width height

/-- How many rows the foot has on a screen: two, if the display and the tab have one each. -/
def statusHeight (height : Nat) : Nat := min 2 (height - 2)

/-- How many rows the display has: three, if the tab has one and the foot its own. -/
def displayHeight (height : Nat) : Nat := min 3 (height - 1 - statusHeight height)

/-- **The screen**: the display, the open tab and the foot. -/
def draw (a : App) (width height : Nat) : List Row :=
  let above := displayHeight height
  let below := statusHeight height
  a.display.draw width above ++ a.drawTab width (height - above - below)
    ++ a.drawStatus width below

end App

end PocketCalc
