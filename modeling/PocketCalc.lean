import PocketCalc.Calculator.Notation
import PocketCalc.Settings.File
import PocketCalc.Proofs.Readback
import PocketCalc.Proofs.Calculator.Accumulator
import PocketCalc.Proofs.Calculator.Tally
import PocketCalc.Proofs.Calculator.Overflow
import PocketCalc.Proofs.Calculator.Recovery
import PocketCalc.Proofs.Calculator.Registers
import PocketCalc.Proofs.Settings.Document
import PocketCalc.Proofs.Settings.Marker
import PocketCalc.Proofs.Service.Delivery
import PocketCalc.Proofs.Service.Ending
import PocketCalc.Proofs.Service.Reservation
import PocketCalc.Proofs.Service.Shutdown
import PocketCalc.Proofs.Calculator.Sign
import PocketCalc.Proofs.Calculator.Undo
import PocketCalc.Proofs.Reduction.Outcome
import PocketCalc.Proofs.Reduction.Single
import PocketCalc.Proofs.Split.Seam
import PocketCalc.Proofs.Token.LastRun
import PocketCalc.Proofs.App.Keystrokes
import PocketCalc.Proofs.Keymap
import PocketCalc.Proofs.Log.Newest
import PocketCalc.Proofs.Panel.Refresh
import PocketCalc.Proofs.Panel.Scroll
