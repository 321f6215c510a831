import SensorBoard.Board.Statics
import SensorBoard.Tick

/-!
# The telemetry log

The telemetry log stands in for a link: it takes the requested outputs from the shared mask and
logs the published values once in a thousand ticks. The auxiliary reading is the last value of a
tick, so a tick is counted when it comes, and a line holds the values of one tick only.
-/

namespace SensorBoard

/-- Ticks between two lines of telemetry. -/
def telemetryInterval : UInt32 := 1000

/-- The values published on the current tick. -/
structure TelemetryLog where
  /-- The ticks published so far, modulo `2 ^ 32`. -/
  ticks : UInt32 := 0
  inputs : UInt8 := 0
  widths : PerLine UInt16 := .replicate 0
  pitot : UInt16 := 0
  current : UInt16 := 0
  voltage : UInt16 := 0
deriving DecidableEq

namespace TelemetryLog

variable {σ : Type}

/-- Takes the last value of a tick: counts the tick, and logs it if its turn has come. -/
def endTick [Logger σ] (range : UInt16) : Step (Held TelemetryLog σ) Unit := do
  let t := (← get).own
  let ticks := t.ticks + 1
  .onOwn (set { t with ticks })
  if ticks % telemetryInterval = 0 then
    log (.telemetry t.inputs t.widths t.pitot t.current t.voltage range)

/-- Changes the values of the current tick. -/
def put (f : TelemetryLog → TelemetryLog) : Act (Held TelemetryLog σ) Unit :=
  .lift (.onOwn (modify f))

instance [Statics σ] [Logger σ] : Link (Held TelemetryLog σ) where
  requested := .lift (.onWorld Statics.requested)
  inputs levels := put fun t => { t with inputs := levels }
  widths w := put fun t => { t with widths := w }
  pitot v := put fun t => { t with pitot := v }
  battery current voltage := put fun t => { t with current, voltage }
  range v := .lift (endTick v)

end TelemetryLog

end SensorBoard
