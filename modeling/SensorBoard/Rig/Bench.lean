import SensorBoard.Rig.Basic

/-!
# Benches

A bench is one part of the board set up in a rig: the capture, the digital lines, the analog
pipeline, or all of them. Each is that part held beside the rig.
-/

namespace SensorBoard.Rig

/-- The rig's pins, each line by its own name. -/
def pins : PerLine Line := .ofFn id

/-- Pulse capture on a bench, with room to keep a copy. -/
structure CaptureBench where
  capture : Capture
  kept : Option Capture := none

namespace CaptureBench

/-- The capture takes a snapshot with the counter at a value. -/
def edge (levels : UInt8) (now : UInt32) : Step (Held CaptureBench Rig) Unit := do
  let b := (← get).own
  let c ← .onWorld (b.capture.observe levels (counterAt now))
  .onOwn (set { b with capture := c })

def recalibrate (window : Window.Choice) : Act (Held CaptureBench Rig) Unit := do
  let w ← .of window.window
  .onOwn (modify fun b => { b with capture := b.capture.recalibrate w })

def save (b : CaptureBench) : CaptureBench := { b with kept := some b.capture }

/-- Puts the copy in the capture's place, if one was kept. -/
def restore (b : CaptureBench) : CaptureBench := { b with capture := b.kept.getD b.capture }

def isKept (b : CaptureBench) : Bool := b.kept == some b.capture

end CaptureBench

def digital : Step Rig (Controller Line Line) := Controller.configure pins pins

def analog : Pipeline := { ring := ringBase }

def block : Step Rig (Block Line Line) := return ⟨← digital, analog⟩

/-- The part that an operation sets up, held beside the rig. -/
def mount {κ : Type} (part : Step Rig κ) (r : Rig) : Held κ Rig :=
  let (k, r) := part.run r
  ⟨k, r⟩

/-- One tick, in which actions happen inside the calls of the link. -/
def tick (during : During) : Act (Held (Block Line Line) Rig) Report := do
  .onWorld (modify fun r => { r with during })
  Block.tick

end SensorBoard.Rig
