import SensorBoard.Chip.Device
import SensorBoard.Log
import SensorBoard.Pulse.Count

/-!
# The capture counter

Pulses are timed at 50 MHz. The fine counter runs at that rate but wraps after 16 bits; the
microsecond timer, scaled up, is coarse but long. Both count from the same crystal, so their phase
is fixed: it is measured once, and from then on the timer only has to land within half a turn of
the fine counter.
-/

namespace SensorBoard

/-- Ticks of the capture counter per microsecond. -/
def countsPerUs : UInt32 := captureCounterHz / 1000000

structure CaptureCounter where
  /-- The phase of the fine counter against the scaled timer, as its low 16 bits. -/
  offset : UInt32
deriving DecidableEq

namespace CaptureCounter

variable {σ : Type} [Device σ]

/-- The timer in ticks of the capture counter, with a phase added. -/
def coarse (offset : UInt32) : Step σ UInt32 := do
  return (← Device.timer) * countsPerUs + offset

/-- Starts the fine counter and measures its phase. The divider is two and a half, from the system
clock of 125 MHz. -/
def start [Logger σ] : Step σ CaptureCounter := do
  perform (.sliceDividerWhole 2)
  perform (.sliceDividerPart 8)
  perform (.sliceTop 0xffff)
  perform .sliceEnable
  let coarse ← coarse 0
  let offset := ((← Device.slice) - coarse.toUInt16).toUInt32
  log (.counterPhase offset)
  return ⟨offset⟩

/-- The count: the timer is read first and only has to be near. -/
def now (c : CaptureCounter) : Step σ UInt32 := do
  let coarse ← coarse c.offset
  return extendLow coarse (← Device.slice)

end CaptureCounter

end SensorBoard
