import SensorBoard.Digital.Mask
import SensorBoard.Pulse.Window

/-!
# Pulse capture

The capture sees the input lines as a sequence of snapshots, each stamped with one counter value. A
line is low (idle) or high (a pulse in progress): a rise restarts the line's stamp, and a fall
completes a pulse, whose width replaces the line's last one.

* `Capture.record`: what a snapshot with changes does, line by line.
* `Capture.observe`: takes a snapshot, reading the counter only if a line changed.
-/

namespace SensorBoard

/-- The state of pulse capture on the input lines. -/
structure Capture where
  window : Window
  levels : LineMask := 0
  /-- The counter at each line's last change. -/
  stamps : PerLine UInt32 := .replicate 0
  /-- The width of each line's last completed pulse. -/
  widths : PerLine UInt16 := .replicate 0
deriving DecidableEq

namespace Capture

/-- All lines low, no pulse seen yet. -/
def start (w : Window) : Capture := { window := w }

/-- The line's level differs in the new snapshot. -/
def changes (c : Capture) (levels : LineMask) (l : Line) : Bool := c.levels.has l != levels.has l

/-- The snapshot ends a pulse on the line: the line was high until now. -/
def completes (c : Capture) (levels : LineMask) (l : Line) : Bool :=
  c.changes levels l && c.levels.has l && l.carriesPulses

/-- Takes a snapshot at a counter value. Every line that changed is stamped with it; a line that
fell has its width measured from its previous stamp; all other lines are left alone. -/
def record (c : Capture) (levels : LineMask) (now : UInt32) : Capture where
  window := c.window
  levels := levels
  stamps := .ofFn fun l => if c.changes levels l then now else c.stamps.get l
  widths := .ofFn fun l =>
    if c.completes levels l then c.window.width (now - c.stamps.get l) else c.widths.get l

@[simp] theorem stamps_record (c : Capture) (levels : LineMask) (now : UInt32) (l : Line) :
    (c.record levels now).stamps.get l = if c.changes levels l then now else c.stamps.get l := by
  simp [record]

@[simp] theorem widths_record (c : Capture) (levels : LineMask) (now : UInt32) (l : Line) :
    (c.record levels now).widths.get l =
      if c.completes levels l then c.window.width (now - c.stamps.get l) else c.widths.get l := by
  simp [record]

/-- Takes a snapshot from a byte of levels. The counter is read once, and only if the low four bits
differ from the last snapshot. -/
def observe {m : Type → Type} [Monad m] (c : Capture) (levels : UInt8) (counter : m UInt32) :
    m Capture :=
  let levels := LineMask.ofByte levels
  if levels = c.levels then
    return c
  else do
    let now ← counter
    return c.record levels now

/-- Puts another window in force, for the pulses that end from now on. -/
def recalibrate (c : Capture) (w : Window) : Capture := { c with window := w }

end Capture

end SensorBoard
