import SensorBoard.Fatal

/-!
# Pulse windows

A pulse input is high for 0.85 to 2.15 ms. A `Window` gives these bounds in ticks of the counter
that times the pulses, and maps a measured high time to 16 bits. `Window.forCounterHz` fits the
window to a counter and narrows it, where needed, to what 16 bits can tell apart.
-/

namespace SensorBoard

/-- The shortest pulse expected, in microseconds. -/
def pulseMinUs : UInt32 := 850

/-- The longest pulse expected, in microseconds. -/
def pulseMaxUs : UInt32 := 2150

/-- The rate of the counter that the board times pulses with. At this rate the window spans 65000
ticks, nearly the whole output range. -/
def captureCounterHz : UInt32 := 50000000

/-- The bounds of a pulse, in counter ticks; the window is never empty. -/
structure Window where
  /-- The longest high time that still reads as 0. -/
  low : UInt32
  /-- The shortest high time that reads as 65535. -/
  high : UInt32
  low_lt_high : low < high
deriving DecidableEq

namespace Window

/-- The window measured for the reference board's counter of about 50.4 MHz. -/
def reference : Window := ⟨42829, 108264, by decide⟩

def between (low high : UInt32) : Except Fatal Window :=
  if h : low < high then .ok ⟨low, high, h⟩ else .error .emptyWindow

/-- The sum of two words, held at the largest word. -/
def addSaturating (a b : UInt32) : UInt32 := if a + b < a then 0xffffffff else a + b

/-- The ticks of a counter in a number of microseconds, rounded down. -/
def ticksIn (hz us : UInt32) : UInt32 := (hz.toUInt64 * us.toUInt64 / 1000000).toUInt32

/-- The window for a counter of the given rate. The upper bound is held at 65535 ticks above the
lower one, so no width within the window wraps. A counter too slow to tell the bounds apart has no
window. -/
def forCounterHz (hz : UInt32) : Except Fatal Window :=
  let low := ticksIn hz pulseMinUs
  let high := ticksIn hz pulseMaxUs
  let cap := addSaturating low 0xffff
  between low (if high > cap then cap else high)

/-- The width that a high time reads as: 0 up to the lower bound, 65535 from the upper bound on, and
in between the ticks above the lower bound, in 16 bits. -/
def width (w : Window) (delta : UInt32) : UInt16 :=
  if delta ≤ w.low then 0
  else if delta ≥ w.high then 0xffff
  else (delta - w.low).toUInt16

/-- The ways to ask for a window. -/
inductive Choice
  | reference
  | bounds (low high : UInt32)
  | counterHz (hz : UInt32)

def Choice.window : Choice → Except Fatal Window
  | .reference => .ok Window.reference
  | .bounds low high => between low high
  | .counterHz hz => forCounterHz hz

end Window

end SensorBoard
