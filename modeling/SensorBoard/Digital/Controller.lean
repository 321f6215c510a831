import SensorBoard.Log

/-!
# The digital lines

The controller writes the four outputs and reads the four inputs as packed masks, over pins of any
kind. It remembers the mask it applied last, and writes no pin when the same mask is asked for
again.
-/

namespace SensorBoard

class OutputPin (O σ : Type) where
  drive : O → Bool → Step σ Unit

class InputPin (I σ : Type) where
  isHigh : I → Step σ Bool

instance {O κ σ : Type} [OutputPin O σ] : OutputPin O (Held κ σ) where
  drive pin high := .onWorld (OutputPin.drive pin high)

instance {I κ σ : Type} [InputPin I σ] : InputPin I (Held κ σ) where
  isHigh pin := .onWorld (InputPin.isHigh pin)

@[simp] theorem drive_held {O κ σ : Type} [OutputPin O σ] (pin : O) (high : Bool) :
    (OutputPin.drive pin high : Step (Held κ σ) Unit) = .onWorld (OutputPin.drive pin high) := rfl

@[simp] theorem isHigh_held {I κ σ : Type} [InputPin I σ] (pin : I) :
    (InputPin.isHigh pin : Step (Held κ σ) Bool) = .onWorld (InputPin.isHigh pin) := rfl

/-- The lines of both directions, by their pins. -/
structure Controller (O I : Type) where
  outputs : PerLine O
  inputs : PerLine I
  /-- The mask driven onto the outputs. -/
  applied : LineMask

namespace Controller

variable {O I σ : Type}

/-- Drives every output, in line order, whatever its level was. -/
def driveAll [OutputPin O σ] (outputs : PerLine O) (m : LineMask) : Step σ Unit :=
  Line.all.forM fun l => OutputPin.drive (outputs.get l) (m.has l)

/-- Takes over lines whose pads are set up, and drives every output low. -/
def configure [OutputPin O σ] (outputs : PerLine O) (inputs : PerLine I) :
    Step σ (Controller O I) := do
  driveAll outputs 0
  return ⟨outputs, inputs, 0⟩

/-- Drives the low four bits of a byte onto the outputs. Tells whether they changed: a mask that is
applied already touches no pin. -/
def setOutputs [OutputPin O σ] [Logger σ] (mask : UInt8) :
    Step (Held (Controller O I) σ) Bool := do
  let c := (← get).own
  let m := LineMask.ofByte mask
  if m = c.applied then
    return false
  else
    log (.outputs c.applied m)
    .onWorld (driveAll c.outputs m)
    .onOwn (set { c with applied := m })
    return true

/-- The levels of the inputs, read in line order. -/
def readInputs [InputPin I σ] : Step (Held (Controller O I) σ) LineMask := do
  let c := (← get).own
  .onWorld <| Line.all.foldlM (fun levels l => do
    let high ← InputPin.isHigh (c.inputs.get l)
    return if high then levels ||| LineMask.only l else levels) 0

end Controller

end SensorBoard
