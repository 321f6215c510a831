import SensorBoard.Analog.Channel
import SensorBoard.Analog.Ring
import SensorBoard.Digital.Mask
import SensorBoard.Pulse.Window
import SensorBoard.Step
import SensorBoard.Text

/-!
# Log messages

Everything the board logs, as data (`Message`), with each message's level and text. A world that
takes messages is a `Logger`; logging never fails and never changes what the board does.
-/

namespace SensorBoard

/-- How much a message matters, from the most severe on. -/
inductive Level
  | error
  | warn
  | info
  | debug
  | trace
deriving DecidableEq

namespace Level

def rank : Level → Nat
  | error => 1
  | warn => 2
  | info => 3
  | debug => 4
  | trace => 5

def name : Level → String
  | error => "ERROR"
  | warn => "WARN"
  | info => "INFO"
  | debug => "DEBUG"
  | trace => "TRACE"

/-- A log set to a level takes the messages of that level and the more severe ones. -/
def takes (setting : Level) (l : Level) : Bool := l.rank ≤ setting.rank

end Level

/-- What the board logs. -/
inductive Message
  | drained (index : UInt64) (channel : Channel) (raw : Int16)
  | averages (readings : Readings)
  /-- The converter got too far ahead of the reader. -/
  | overrun (unread : UInt32)
  /-- The converter has delivered nothing. -/
  | stalled
  /-- The ring transfer is about to be set up again. -/
  | reconfiguring
  /-- The outputs are about to change. -/
  | outputs (applied requested : LineMask)
  | window (w : Window)
  /-- The sample ring was asked for a second time. -/
  | ringExists
  /-- The phase of the fine counter against the coarse one. -/
  | counterPhase (offset : UInt32)
  /-- The rate of conversions and the clock divider that gives it. -/
  | conversionRate (perSecond : UInt32) (divider : UInt16)
  /-- The values published on a tick. -/
  | telemetry (inputs : UInt8) (widths : PerLine UInt16) (pitot current voltage range : UInt16)
  | startup
  | installingEdgeSource
  | running (periodUs : UInt32)
deriving DecidableEq

namespace Message

def level : Message → Level
  | drained .. | averages _ => .trace
  | overrun _ | ringExists => .warn
  | stalled | reconfiguring | outputs .. | window _ | counterPhase _ | conversionRate ..
  | installingEdgeSource => .debug
  | telemetry .. | startup | running _ => .info

def text : Message → String
  | drained index channel raw => s!"sample {index}: channel {channel.index} raw {raw}"
  | averages r =>
    s!"averages: pitot {r.pitot} current {r.batteryCurrent} voltage {r.batteryVoltage} aux {r.aux}"
  | overrun unread =>
    s!"ADC ring overrun ({unread} unread of {ringCapacity}), restarting transfer"
  | stalled => "ADC ring stalled, restarting transfer"
  | reconfiguring => "critical_section: reconfigure ADC ring transfer"
  | outputs applied requested => s!"GP outputs {applied.toNat} -> {requested.toNat}"
  | window w => s!"critical_section: PWM window {w.low} - {w.high} ticks"
  | ringExists => "Sample ring has already been created"
  | counterPhase offset => s!"Capture counter phase {offset}"
  | conversionRate perSecond divider => s!"ADC at {perSecond} samples/s, divider {divider}"
  | telemetry inputs widths pitot current voltage range =>
    let gpin := Text.binary inputs.toNat
    let pwm := Text.list (widths.toList.map toString)
    s!"gpin {gpin} pwm {pwm} pitot {pitot} I {current} V {voltage} range {range}"
  | startup => "GP I/O startup"
  | installingEdgeSource => "critical_section: install edge source"
  | running periodUs => s!"GP I/O running, tick {periodUs} us"

end Message

/-- A world that takes log messages. -/
class Logger (σ : Type) where
  log : Message → Step σ Unit

export Logger (log)

instance {κ σ : Type} [Logger σ] : Logger (Held κ σ) where
  log m := .onWorld (log m)

@[simp] theorem log_held {κ σ : Type} [Logger σ] (m : Message) :
    (log m : Step (Held κ σ) Unit) = .onWorld (log m) := rfl

end SensorBoard
