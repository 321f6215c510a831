import SensorBoard.Chip.Machine
import SensorBoard.Firmware.Program

/-!
# A bench for the board's parts

The parts that the program assembles, one by one on a machine, without the program and without
interrupts. An operation on a part that is not on the bench yet gives nothing.
-/

namespace SensorBoard.Firmware

/-- The parts on a bench; a telemetry log is always there. -/
structure Bench where
  latch : Option EdgeLatch := none
  counter : Option CaptureCounter := none
  source : Option EdgeSource := none
  ring : Option UInt32 := none
  adcDma : Option AdcDma := none
  telemetry : TelemetryLog := {}

namespace Bench

variable {α : Type}

abbrev Use : Type → Type := Step (Held Bench Machine)

def put (f : Bench → Bench) : Use Unit := .onOwn (modify f)

/-- Uses a part of the bench, if it is there. -/
def withPart {κ : Type} (part : Bench → Option κ) (x : κ → Step Machine α) : Use (Option α) := do
  match part (← get).own with
  | some k => some <$> .onWorld (x k)
  | none => return none

/-- Puts a latch on the bench, with input lines on fresh pads. -/
def makeLatch (gpios : PerLine Gpio) : Use Unit := do
  let pins ← .onWorld (Pin.onLines Pin.asInput gpios)
  put fun b => { b with latch := some (.ofPins pins) }

def levels : Use (Option LineMask) := withPart Bench.latch EdgeLatch.levels

def acknowledge : Use (Option Unit) := withPart Bench.latch EdgeLatch.acknowledge

def makeCounter : Use Unit := do
  let c ← .onWorld CaptureCounter.start
  put fun b => { b with counter := some c }

def now : Use (Option UInt32) := withPart Bench.counter CaptureCounter.now

/-- Makes a source of edges from latch and counter, if both are there. The counter goes into the
source; the latch stays as well. Tells whether there is a source. -/
def makeSource : Use Bool := do
  put fun b =>
    match b.latch, b.counter with
    | some latch, some counter => { b with source := some ⟨latch, counter⟩, counter := none }
    | _, _ => b
  return (← get).own.source.isSome

def service : Use (Option Unit) := withPart Bench.source EdgeSource.service

/-- Asks for the sample ring and tells whether it was given. -/
def makeRing : Use Bool := do
  match ← .onWorld Statics.createRing with
  | some base =>
    put fun b => { b with ring := some base }
    return true
  | none => return false

/-- Puts the converter with its transfer on the bench, on fresh pads. -/
def makeAdcDma (pads : PerChannel Gpio) : Act (Held Bench Machine) Unit := do
  let inputs ← .onWorld (analogInputs pads)
  .lift (.onWorld (perform .adcOn))
  let a ← ExceptT.lift (.onWorld (AdcDma.start inputs))
  .lift (put fun b => { b with adcDma := some a })

/-- Uses the converter with its transfer, if it is there. -/
def withAdcDma (x : Step (Held AdcDma Machine) α) : Use (Option α) := do
  match (← get).own.adcDma with
  | some a =>
    let (r, h) ← .onWorld fun m =>
      let (r, h) := x.run ⟨a, m⟩
      ((r, h.own), h.world)
    put fun b => { b with adcDma := some h }
    return some r
  | none => return none

/-- Sets up a transfer into the bench's ring, or into another one. -/
def configure (length : Nat) (mask : UInt8) (other : Bool) : Use (Option Unit) := do
  let b := (← get).own
  let base := if other then Chip.otherBase else b.ring.getD Chip.otherBase
  withAdcDma (AdcDma.configure ⟨base, length, mask⟩)

/-- Samples of the bench's ring, from an index on. -/
def readRing (index : UInt64) (count : Nat) : Use (Option (List Int16)) :=
  withPart Bench.ring fun _ => do return (← get).chip.ring.readMany index count

def onTelemetry (x : Act (Held TelemetryLog Machine) α) : Act (Held Bench Machine) α :=
  .onPart Bench.telemetry (fun t b => { b with telemetry := t }) x

def times {σ : Type} : Nat → Act σ Unit → Act σ Unit
  | 0, _ => return ()
  | n + 1, x => do
    x
    times n x

end Bench

end SensorBoard.Firmware
