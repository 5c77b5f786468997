import LabControl.Bench.Procedure
import LabControl.Bench.Slots
import LabControl.Settings.Load
import LabControl.Sleep
import LabControl.Proofs.Sweep.Body
import LabControl.Proofs.Sweep.Restore
import LabControl.Proofs.Sweep.Autosweep
import LabControl.Proofs.Sweep.Cleanup
import LabControl.Proofs.Sweep.Reference
import LabControl.Proofs.Exact
import LabControl.Proofs.Sweep.FinalState
import LabControl.Proofs.Sweep.Ramps
import LabControl.Proofs.Sweep.Continuity
import LabControl.Proofs.Execution
import LabControl.Proofs.Message
import LabControl.Proofs.Sweep.Waits
import LabControl.Proofs.Sweep.Cancellation
import LabControl.Proofs.Device.Registry
import LabControl.Proofs.Device.Readers
import LabControl.Proofs.Settings.Registration
import LabControl.Proofs.Channel.Exchanges
import LabControl.Proofs.Settings.Validation
import LabControl.Proofs.Client.Rejection
import LabControl.Proofs.Client.Wire
import LabControl.Proofs.Sweep.States
import LabControl.Proofs.Device.Readings
import LabControl.Proofs.Sweep.Linkage
import LabControl.Proofs.Sweep.Failures
import LabControl.Proofs.Sweep.Stopping
import LabControl.Proofs.Contract
import LabControl.Proofs.Sweep.Framing
import LabControl.Proofs.Calibration.Nearest
import LabControl.Proofs.Calibration.Inversion
import LabControl.Proofs.Calibration.Decoding
import LabControl.Proofs.Sweep.Bracket
import LabControl.Proofs.Channel.Transcript
import LabControl.Proofs.Fields
import LabControl.Proofs.Sweep.Benchmark
import LabControl.Proofs.Sweep.Estimate
import LabControl.Proofs.Sweep.Unstepped
