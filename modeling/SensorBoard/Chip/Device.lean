import SensorBoard.Analog.Channel
import SensorBoard.Digital.Line
import SensorBoard.Text
import SensorBoard.Step

/-!
# The chip, as the program sees it

Everything the program asks of the chip is a `Command`, and everything it learns from the chip is a
read. A world with a chip in it is a `Device`; none of these operations can fail.
-/

namespace SensorBoard

/-- A general-purpose pin of the chip. -/
abbrev Gpio := Fin 30

abbrev AdcInput := Fin 4

/-- A change of level. -/
inductive Edge
  | falling
  | rising
deriving DecidableEq

/-- The bit of an edge among a pin's four event bits; the two below it are for levels. -/
def Edge.bit : Edge → Nat
  | .falling => 2
  | .rising => 3

/-- What the program asks of the chip. -/
inductive Command
  /-- Gives a pin to the processor, as an input or an output. -/
  | pinFunction (pin : Gpio) (d : Direction)
  | pinPull (pin : Gpio) (p : Pull)
  /-- Lets an edge of a pin raise the interrupt. -/
  | pinInterrupt (pin : Gpio) (e : Edge)
  | pinAnalog (pin : Gpio)
  | pinLevel (pin : Gpio) (high : Bool)
  /-- Clears latched events: eight pins to a word, four bits to a pin. -/
  | clearEvents (word : Nat) (bits : UInt32)
  | adcOn
  /-- One conversion starts every `1 + whole + part / 256` clocks of the converter. -/
  | adcDivider (whole : UInt16) (part : UInt8)
  /-- The input that the rotation starts at. -/
  | adcFirst (input : AdcInput)
  /-- The inputs that take part in the rotation. -/
  | adcRotation (inputs : PerChannel AdcInput)
  | adcRequestDma
  | adcStartPaused
  | adcPause
  | adcClear
  | adcResume
  | adcStop
  /-- Waits for a number of processor cycles. -/
  | delayCycles (cycles : UInt32)
  | dmaAbort (bits : UInt32)
  | dmaReadAddress (address : UInt32)
  | dmaWriteAddress (address : UInt32)
  | dmaCount (count : UInt32)
  /-- Writes the transfer's control word and starts the transfer. -/
  | dmaStart (control : UInt32)
  | sliceDividerWhole (value : UInt8)
  | sliceDividerPart (value : UInt8)
  | sliceTop (value : UInt16)
  | sliceEnable
  | startClocks (crystalHz : UInt32)
  | unmaskEdges
  /-- Waits for a number of microseconds. -/
  | delayMicros (us : UInt32)
deriving DecidableEq

/-- A world with the chip in it. -/
class Device (σ : Type) where
  perform : Command → Step σ Unit
  /-- Takes the peripherals; they can be taken once. -/
  takePeripherals : Step σ Bool
  /-- Whether the clocks run after their start. -/
  clocksRun : Step σ Bool
  pinHigh : Gpio → Step σ Bool
  /-- The levels of all pins, bit `n` for pin `n`. -/
  pinLevels : Step σ (BitVec 32)
  /-- The microseconds counted so far. -/
  timer : Step σ UInt32
  slice : Step σ UInt16
  /-- The samples that the transfer may still move. -/
  dmaRemaining : Step σ UInt32
  /-- Waits until an abort of the transfer has come through. -/
  awaitAbort : Step σ Unit

export Device (perform)

instance {κ σ : Type} [Device σ] : Device (Held κ σ) where
  perform c := .onWorld (perform c)
  takePeripherals := .onWorld Device.takePeripherals
  clocksRun := .onWorld Device.clocksRun
  pinHigh g := .onWorld (Device.pinHigh g)
  pinLevels := .onWorld Device.pinLevels
  timer := .onWorld Device.timer
  slice := .onWorld Device.slice
  dmaRemaining := .onWorld Device.dmaRemaining
  awaitAbort := .onWorld Device.awaitAbort

namespace Device

variable {κ σ : Type} [Device σ]

@[simp] theorem perform_held (c : Command) :
    (perform c : Step (Held κ σ) Unit) = .onWorld (perform c) := rfl

@[simp] theorem dmaRemaining_held :
    (dmaRemaining : Step (Held κ σ) UInt32) = .onWorld dmaRemaining := rfl

@[simp] theorem awaitAbort_held : (awaitAbort : Step (Held κ σ) Unit) = .onWorld awaitAbort := rfl

end Device

end SensorBoard
