import SensorBoard.Chip.Device
import SensorBoard.Digital.Controller

/-!
# Setting up pads

A `Pin` carries the function and bias its pad is known to have, so setting up a pad asks the chip
only for what changes. Lines are biased as the reference line map says; input lines raise the
interrupt on both edges.
-/

namespace SensorBoard

/-- A pad and its set-up. -/
structure Pin where
  gpio : Gpio
  /-- Input or output, once the pad was given to the processor. -/
  function : Option Direction := none
  pull : Pull := .down
deriving DecidableEq

namespace Pin

variable {σ : Type} [Device σ]

/-- Gives the pad a direction, unless it has it. -/
def withFunction (p : Pin) (d : Direction) : Step σ Pin := do
  unless p.function = some d do
    perform (.pinFunction p.gpio d)
  return { p with function := some d }

/-- Gives the pad a bias, unless it has it. -/
def withPull (p : Pin) (pull : Pull) : Step σ Pin := do
  unless p.pull = pull do
    perform (.pinPull p.gpio pull)
  return { p with pull }

def asOutput (p : Pin) (l : Line) : Step σ Pin := do
  (← p.withFunction .output).withPull (LineConfig.of l .output).pull

/-- The pad as an input line that raises the interrupt on both edges. -/
def asInput (p : Pin) (l : Line) : Step σ Pin := do
  let p ← (← p.withFunction .input).withPull (LineConfig.of l .input).pull
  perform (.pinInterrupt p.gpio .rising)
  perform (.pinInterrupt p.gpio .falling)
  return p

/-- Sets up a fresh pad for each line, in line order. -/
def onLines (setUp : Pin → Line → Step σ Pin) (gpios : PerLine Gpio) : Step σ (PerLine Pin) := do
  let gp0 ← setUp { gpio := gpios.gp0 } .gp0
  let gp1 ← setUp { gpio := gpios.gp1 } .gp1
  let gp2 ← setUp { gpio := gpios.gp2 } .gp2
  let gp3 ← setUp { gpio := gpios.gp3 } .gp3
  return ⟨gp0, gp1, gp2, gp3⟩

/-- The converter's input on a pad; the last four pads have one. -/
def adcInput? (g : Gpio) : Option AdcInput :=
  if h : 26 ≤ g.val then some ⟨g.val - 26, by omega⟩ else none

/-- Makes the pad a floating input and gives it to the converter, if it can take it. -/
def asAnalog (p : Pin) : Step σ (Option AdcInput) := do
  let p ← (← p.withFunction .input).withPull .none
  match adcInput? p.gpio with
  | some i =>
    perform (.pinAnalog p.gpio)
    return some i
  | none => return none

instance : OutputPin Pin σ where
  drive p high := perform (.pinLevel p.gpio high)

instance : InputPin Pin σ where
  isHigh p := Device.pinHigh p.gpio

end Pin

end SensorBoard
