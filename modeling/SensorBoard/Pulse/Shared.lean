import SensorBoard.Log
import SensorBoard.Pulse.Capture

/-!
# The shared capture

The capture is written by the edge interrupt and read by the tick. Both go through a critical
section, so the tick never sees half of a snapshot.
-/

namespace SensorBoard

/-- A world that holds the capture which interrupt and tick share. -/
class SharedCapture (σ : Type) where
  load : Step σ Capture
  store : Capture → Step σ Unit

namespace SharedCapture

variable {κ σ : Type}

instance [SharedCapture σ] : SharedCapture (Held κ σ) where
  load := .onWorld load
  store c := .onWorld (store c)

@[simp] theorem load_held [SharedCapture σ] : (load : Step (Held κ σ) Capture) = .onWorld load :=
  rfl

@[simp] theorem store_held [SharedCapture σ] (c : Capture) :
    (store c : Step (Held κ σ) Unit) = .onWorld (store c) := rfl

variable [SharedCapture σ] [CriticalSection σ]

/-- The body of the edge interrupt: the capture takes a new snapshot of the inputs. -/
def inputEdge (levels : UInt8) (counter : Step σ UInt32) : Step σ Unit :=
  .atomically do
    let c ← load
    store (← c.observe levels counter)

/-- The latest pulse widths, all from one moment. -/
def latestWidths : Step σ (PerLine UInt16) :=
  .atomically do
    return (← load).widths

def recalibrate [Logger σ] (w : Window) : Step σ Unit := do
  log (.window w)
  .atomically do
    let c ← load
    store (c.recalibrate w)

end SharedCapture

end SensorBoard
