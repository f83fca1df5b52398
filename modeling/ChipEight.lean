import ChipEight.Main
import ChipEight.Instruction.Pattern
import ChipEight.Files.Directory
import ChipEight.Keypad.Call
import ChipEight.Pacing.Exact
import ChipEight.Proofs.WellFormed
import ChipEight.Proofs.Calls
import ChipEight.Proofs.LowBits
import ChipEight.Proofs.Switches
import ChipEight.Proofs.Writes
import ChipEight.Proofs.Waiting
import ChipEight.Proofs.Blocked
import ChipEight.Proofs.Periphery
import ChipEight.Proofs.Devices
import ChipEight.Proofs.PendingCalls
import ChipEight.Proofs.Loading
import ChipEight.Proofs.PowerOn
import ChipEight.Proofs.Paced
import ChipEight.Proofs.DueTicks
import ChipEight.Proofs.Endings
import ChipEight.Proofs.Assembled
import ChipEight.Proofs.RandomBytes
import ChipEight.Proofs.Overlays
import ChipEight.Proofs.Redrawing
import ChipEight.Proofs.Arithmetic
import ChipEight.Proofs.Flow
import ChipEight.Proofs.Transfer
import ChipEight.Proofs.Decimal
import ChipEight.Proofs.Timers
import ChipEight.Proofs.Report
import ChipEight.Proofs.Persistence
import ChipEight.Proofs.Configured
import ChipEight.Proofs.Toggling
import ChipEight.Proofs.Rounding
import ChipEight.Proofs.Patterns
import ChipEight.Proofs.Keys
import ChipEight.Proofs.Views
import ChipEight.Proofs.Progress
