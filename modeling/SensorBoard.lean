import SensorBoard.Analog.Accumulator
import SensorBoard.Analog.Channel
import SensorBoard.Analog.Pipeline
import SensorBoard.Analog.Ring
import SensorBoard.Analog.Sampler
import SensorBoard.Board.AdcDma
import SensorBoard.Board.CaptureCounter
import SensorBoard.Board.EdgeLatch
import SensorBoard.Board.Pin
import SensorBoard.Board.Statics
import SensorBoard.Board.Telemetry
import SensorBoard.Chip.Basic
import SensorBoard.Chip.Command
import SensorBoard.Chip.Device
import SensorBoard.Chip.Machine
import SensorBoard.DebugText
import SensorBoard.Digital.Controller
import SensorBoard.Digital.Line
import SensorBoard.Digital.Mask
import SensorBoard.Fatal
import SensorBoard.Firmware.Bench
import SensorBoard.Firmware.Program
import SensorBoard.Firmware.Run
import SensorBoard.Log
import SensorBoard.Proofs.Acquire
import SensorBoard.Proofs.Alignment
import SensorBoard.Proofs.Average
import SensorBoard.Proofs.Batching
import SensorBoard.Proofs.Cadence
import SensorBoard.Proofs.Calibrated
import SensorBoard.Proofs.Conform
import SensorBoard.Proofs.Control
import SensorBoard.Proofs.Delivery
import SensorBoard.Proofs.Drain
import SensorBoard.Proofs.Exposed
import SensorBoard.Proofs.Feed
import SensorBoard.Proofs.Filling
import SensorBoard.Proofs.FrontEnd
import SensorBoard.Proofs.Headroom
import SensorBoard.Proofs.Heard
import SensorBoard.Proofs.History
import SensorBoard.Proofs.Interrupted
import SensorBoard.Proofs.Keeping
import SensorBoard.Proofs.Nearest
import SensorBoard.Proofs.Observed
import SensorBoard.Proofs.Once
import SensorBoard.Proofs.Outputs
import SensorBoard.Proofs.Ownership
import SensorBoard.Proofs.Phases
import SensorBoard.Proofs.Published
import SensorBoard.Proofs.RawInputs
import SensorBoard.Proofs.ReadBack
import SensorBoard.Proofs.Readout
import SensorBoard.Proofs.Reference
import SensorBoard.Proofs.Refusals
import SensorBoard.Proofs.Reset
import SensorBoard.Proofs.Rotation
import SensorBoard.Proofs.RunOut
import SensorBoard.Proofs.Safety
import SensorBoard.Proofs.Scene
import SensorBoard.Proofs.Seams
import SensorBoard.Proofs.Timing
import SensorBoard.Proofs.Transfers
import SensorBoard.Proofs.Widths
import SensorBoard.Pulse.Capture
import SensorBoard.Pulse.Count
import SensorBoard.Pulse.Shared
import SensorBoard.Pulse.Window
import SensorBoard.Rig.Basic
import SensorBoard.Rig.Bench
import SensorBoard.Rig.Event
import SensorBoard.Step
import SensorBoard.Text
import SensorBoard.Tick
