import SensorBoard.Board.CaptureCounter
import SensorBoard.Board.Pin
import SensorBoard.Pulse.Shared

/-!
# Input edges

The edge interrupt works on the input lines while their pins belong to the digital controller. It
clears the latched edges first and reads the levels after that, so a change that comes in between
is latched again and seen by the next run.
-/

namespace SensorBoard

/-- The pins of the input lines. -/
structure EdgeLatch where
  gpios : PerLine Gpio
deriving DecidableEq

namespace EdgeLatch

def ofPins (inputs : PerLine Pin) : EdgeLatch := ⟨inputs.map Pin.gpio⟩

/-- The place of a pin's four event bits in its word. -/
def nibble (g : Gpio) : UInt32 := 4 * (g.val % 8).toUInt32

/-- The bits of both edges of a pin in its word. -/
def edgeBits (g : Gpio) : UInt32 := 0b1100 <<< nibble g

variable {σ : Type} [Device σ]

/-- Clears the latched edges of the input lines, and of no other pin. -/
def acknowledge (e : EdgeLatch) : Step σ Unit :=
  e.gpios.toList.forM fun g => perform (.clearEvents (g.val / 8) (edgeBits g))

/-- The levels of the input lines, all from one moment. -/
def levels (e : EdgeLatch) : Step σ LineMask := do
  let raw ← Device.pinLevels
  return Line.all.foldl
    (fun m l => m ||| (((raw >>> (e.gpios.get l).val) &&& 1).setWidth 4 <<< l.index)) 0

end EdgeLatch

structure EdgeSource where
  latch : EdgeLatch
  counter : CaptureCounter
deriving DecidableEq

def EdgeSource.service {σ : Type} [Device σ] [SharedCapture σ] [CriticalSection σ]
    (e : EdgeSource) : Step σ Unit := do
  e.latch.acknowledge
  let levels ← e.latch.levels
  SharedCapture.inputEdge levels.toByte e.counter.now

end SensorBoard
