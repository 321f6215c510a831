import SensorBoard.Analog.Pipeline
import SensorBoard.Digital.Controller
import SensorBoard.Pulse.Shared

/-!
# The tick

Once per millisecond the board applies the outputs that were asked for, samples the inputs, and
hands inputs, pulse widths and analog averages to the link. `Block.tick` does this in a fixed order
and reports exactly what it handed over.
-/

namespace SensorBoard

/-- A world with a link to the rest of the aircraft. A call may fail with whatever happens behind
it. -/
class Link (σ : Type) where
  /-- The output mask that was asked for last. -/
  requested : Act σ UInt8
  /-- Publishes the levels of the inputs. -/
  inputs : UInt8 → Act σ Unit
  /-- Publishes the pulse widths, in line order. -/
  widths : PerLine UInt16 → Act σ Unit
  pitot : UInt16 → Act σ Unit
  battery (current voltage : UInt16) : Act σ Unit
  range : UInt16 → Act σ Unit

/-- Everything published on one tick. -/
structure Report where
  inputs : LineMask := 0
  widths : PerLine UInt16 := .replicate 0
  analog : Readings := .replicate 0
  /-- Set if the analog transfer was started anew. -/
  fault : Option Fault := none
deriving DecidableEq

/-- The board's general-purpose inputs and outputs: digital lines and analog acquisition. -/
structure Block (O I : Type) where
  digital : Controller O I
  analog : Pipeline

namespace Block

variable {O I σ α : Type}

def onDigital (x : Step (Held (Controller O I) σ) α) : Act (Held (Block O I) σ) α :=
  .lift (.onPart Block.digital (fun d b => { b with digital := d }) x)

def onAnalog (x : Act (Held Pipeline σ) α) : Act (Held (Block O I) σ) α :=
  .onPart Block.analog (fun a b => { b with analog := a }) x

variable [OutputPin O σ] [InputPin I σ] [Sampler σ] [SharedCapture σ] [CriticalSection σ]
  [Logger σ] [Link σ]

/-- **One tick.** The outputs are applied before the inputs are read, and every value goes to the
link before the next one is taken. -/
def tick : Act (Held (Block O I) σ) Report := do
  let requested ← .onWorld Link.requested
  let _ ← onDigital (Controller.setOutputs requested)
  let inputs ← onDigital Controller.readInputs
  .onWorld (Link.inputs inputs.toByte)
  let widths ← ExceptT.lift SharedCapture.latestWidths
  .onWorld (Link.widths widths)
  let ⟨analog, fault⟩ ← onAnalog Pipeline.acquire
  .onWorld (Link.pitot analog.pitot)
  .onWorld (Link.battery analog.batteryCurrent analog.batteryVoltage)
  .onWorld (Link.range analog.aux)
  return { inputs, widths, analog, fault }

end Block

end SensorBoard
