import SensorBoard.Board.AdcDma
import SensorBoard.Board.Telemetry

/-!
# The program

* `boot`: sets up the chip and the board's parts; a start that lacks something is fatal.
* `edgeInterrupt`: the handler of the input edges.
* `cycle`: one round of the program's loop, a tick and the wait for the next one.

The parts of a running program (`Parts`) are held beside the world that the handler shares.
-/

namespace SensorBoard

/-- A converter with its transfer is a sampler for the pipeline. -/
instance AdcDma.sampler {σ : Type} [Device σ] [Statics σ] : Sampler (Held AdcDma σ) where
  written := .lift AdcDma.written
  halt := .lift AdcDma.halt
  configure t := .lift (AdcDma.configure t)
  resume := .lift AdcDma.resume
  sampleAt i := .onWorld (Statics.ringSample i)

namespace Firmware

def crystalHz : UInt32 := 12000000

def tickPeriodUs : UInt32 := 1000

def outputPins : PerLine Gpio := ⟨2, 3, 4, 5⟩

def inputPins : PerLine Gpio := ⟨10, 11, 12, 13⟩

def analogPads : PerChannel Gpio := ⟨26, 27, 28, 29⟩

structure Parts where
  block : Block Pin Pin
  telemetry : TelemetryLog
  adcDma : AdcDma

variable {σ : Type}

/-- The parts of the program at work in the world. -/
abbrev Running (σ : Type) : Type := Held (Block Pin Pin) (Held TelemetryLog (Held AdcDma σ))

/-- The program holds its parts. -/
def Parts.inWorld (p : Parts) (w : σ) : Running σ := ⟨p.block, ⟨p.telemetry, ⟨p.adcDma, w⟩⟩⟩

variable [Device σ] [Statics σ] [SharedCapture σ] [CriticalSection σ] [Logger σ]

/-- A value that the start cannot do without. -/
def need {α : Type} (x : Step σ (Option α)) (lack : Fatal) : Act σ α := do
  match ← ExceptT.lift x with
  | some a => return a
  | none => throw lack

/-- Fails unless the world agrees. -/
def require (x : Step σ Bool) (lack : Fatal) : Act σ Unit := do
  unless ← ExceptT.lift x do
    throw lack

/-- Fresh pads, as the inputs of the converter. -/
def analogInputs (pads : PerChannel Gpio) : Act σ (PerChannel AdcInput) := do
  let input (g : Gpio) : Act σ AdcInput := need (Pin.asAnalog { gpio := g }) .absent
  let pitot ← input pads.pitot
  let batteryCurrent ← input pads.batteryCurrent
  let batteryVoltage ← input pads.batteryVoltage
  let aux ← input pads.aux
  return ⟨pitot, batteryCurrent, batteryVoltage, aux⟩

/-- **The start of the program.** The pulse window fits the counter and the source of edges is
installed before the edge interrupt is let through. -/
def boot : Act σ Parts := do
  .lift (log .startup)
  require Device.takePeripherals .absent
  .lift (perform (.startClocks crystalHz))
  require Device.clocksRun .absent
  let outputs ← ExceptT.lift (Pin.onLines Pin.asOutput outputPins)
  let inputs ← ExceptT.lift (Pin.onLines Pin.asInput inputPins)
  let analog ← analogInputs analogPads
  .lift (perform .adcOn)
  let adcDma ← ExceptT.lift (AdcDma.start analog)
  let ring ← need Statics.createRing .ringTaken
  let counter ← ExceptT.lift CaptureCounter.start
  let window ← .of (Window.forCounterHz captureCounterHz)
  .lift (SharedCapture.recalibrate window)
  .lift (log .installingEdgeSource)
  .lift (.atomically (Statics.installEdgeSource ⟨.ofPins inputs, counter⟩))
  let digital ← ExceptT.lift (Controller.configure outputs inputs)
  .lift (perform .unmaskEdges)
  .lift (log (.running tickPeriodUs))
  return { block := ⟨digital, { ring }⟩, telemetry := {}, adcDma }

/-- The handler of the input edges; before the source is installed there is nothing to do. -/
def edgeInterrupt : Step σ Unit :=
  .atomically do
    match ← Statics.edgeSource with
    | some source => source.service
    | none => return ()

/-- One round of the loop. -/
def cycle : Act (Running σ) Unit := do
  let _ ← Block.tick
  .lift (perform (.delayMicros tickPeriodUs))

end Firmware

end SensorBoard
