import SensorBoard.Analog.Ring
import SensorBoard.Chip.Device

/-!
# The chip, simulated

A chip with the parts that the board uses: a clock with the timer and the fine counter on it, wires
with latched edges, an analog converter, and a DMA channel that moves converted samples to the
sample ring. Commands change it (`Chip.apply`); so does the world outside (`Chip.setWires`,
`Chip.advance`, `Chip.convert`).
-/

namespace SensorBoard

inductive AdcMode
  | idle
  | paused
  | running
deriving DecidableEq

/-- The registers of the DMA channel. -/
structure DmaChannel where
  control : UInt32 := 0
  writeAddress : UInt32 := 0
  /-- The samples that may still be moved. -/
  remaining : UInt32 := 0
  /-- The samples moved since the transfer was started. -/
  moved : Nat := 0
deriving DecidableEq

namespace DmaChannel

/-- The channel takes part in transfers. -/
def enabled (d : DmaChannel) : Bool := d.control.toBitVec.getLsbD 0

/-- The base-two logarithm of the bytes that the write address wraps in. -/
def ringSize (d : DmaChannel) : Nat := (d.control >>> 6 &&& 0xf).toNat

/-- The slot, counted from the base, that the next sample goes to. -/
def slot (d : DmaChannel) : Nat := d.moved * 2 % (1 <<< d.ringSize) / 2

def move (d : DmaChannel) : DmaChannel :=
  { d with moved := d.moved + 1, remaining := d.remaining - 1 }

end DmaChannel

structure Chip where
  /-- Ticks of 50 MHz since the chip was reset. -/
  clock : Nat := 0
  /-- The timer's reading at tick 0. -/
  timerStart : UInt32 := 0
  /-- The fine counter's reading at tick 0, with the ticks by which it was moved ahead since. -/
  sliceStart : UInt16 := 0
  wires : BitVec 32 := 0
  /-- The events that each pin has latched. -/
  latched : Vector (BitVec 4) 30 := .replicate 30 0
  /-- The events that may raise the interrupt. -/
  enabled : Vector (BitVec 4) 30 := .replicate 30 0
  unmasked : Bool := false
  adc : AdcMode := .idle
  dma : DmaChannel := {}
  /-- The reads of the abort register that an abort takes to come through. -/
  abortPolls : Nat := 0
  /-- The reads that the last abort still takes. -/
  pendingPolls : Nat := 0
  ring : SampleRing := .zero
  peripheralsTaken : Bool := false
  clocksBroken : Bool := false

namespace Chip

/-- The address of the sample ring, a multiple of its size in bytes. -/
def ringBase : UInt32 := 0x20000000

def otherBase : UInt32 := 0x20000400

/-- The timer counts microseconds. -/
def timer (c : Chip) : UInt32 := c.timerStart + (c.clock / 50).toUInt32

/-- The fine counter counts every tick. -/
def slice (c : Chip) : UInt16 := c.sliceStart + c.clock.toUInt16

/-- The event of a change between two levels, as a bit. -/
def changeEvents (before after : Bool) : BitVec 4 :=
  match before, after with
  | false, true => 1 <<< Edge.rising.bit
  | true, false => 1 <<< Edge.falling.bit
  | _, _ => 0

/-- Sets the levels of all wires. Every change is latched, whether or not it may raise the
interrupt. -/
def setWires (c : Chip) (levels : BitVec 32) : Chip :=
  { c with
    wires := levels
    latched := .ofFn fun g =>
      c.latched[g] ||| changeEvents (c.wires.getLsbD g) (levels.getLsbD g) }

def setWire (c : Chip) (g : Gpio) (high : Bool) : Chip :=
  let bit : BitVec 32 := 1 <<< g.val
  c.setWires (if high then c.wires ||| bit else c.wires &&& ~~~bit)

/-- Clears the latched events whose bits are set, four to a pin, in the word of eight pins. -/
def clearEvents (c : Chip) (word : Nat) (bits : UInt32) : Chip :=
  { c with
    latched := .ofFn fun g =>
      if g.val / 8 = word then
        c.latched[g] &&& ~~~(bits.toBitVec >>> (4 * (g.val % 8))).setWidth 4
      else c.latched[g] }

@[simp] theorem latched_setWires (c : Chip) (levels : BitVec 32) (g : Gpio) :
    (c.setWires levels).latched[g] =
      c.latched[g] ||| changeEvents (c.wires.getLsbD g) (levels.getLsbD g) := by
  simp [setWires]

@[simp] theorem latched_clearEvents (c : Chip) (word : Nat) (bits : UInt32) (g : Gpio) :
    (c.clearEvents word bits).latched[g] =
      if g.val / 8 = word then
        c.latched[g] &&& ~~~(bits.toBitVec >>> (4 * (g.val % 8))).setWidth 4
      else c.latched[g] := by
  simp [clearEvents]

/-- The pins with an event that is latched and may raise the interrupt, with all they latched. -/
def raised (c : Chip) : List (Gpio × BitVec 4) :=
  (List.finRange 30).filterMap fun g =>
    if c.latched[g] &&& c.enabled[g] = 0 then none else some (g, c.latched[g])

/-- The edge interrupt is raised and let through. -/
def interrupts (c : Chip) : Bool := c.unmasked && !c.raised.isEmpty

/-- The converter delivers one sample. It reaches the ring only while the converter runs and the
transfer is enabled, has count left, and writes there; else it is lost. -/
def convertOne (c : Chip) (s : Int16) : Chip :=
  if c.adc = .running ∧ c.dma.enabled ∧ 0 < c.dma.remaining ∧ c.dma.writeAddress = ringBase then
    { c with ring := c.ring.write c.dma.slot.toUInt64 s, dma := c.dma.move }
  else c

def convert (c : Chip) (samples : List Int16) : Chip := samples.foldl convertOne c

def advance (c : Chip) (ticks : Nat) : Chip := { c with clock := c.clock + ticks }

/-- What a command does to the chip; waits take no time of their own. -/
def apply (c : Chip) : Command → Chip
  | .pinInterrupt g e => { c with enabled := c.enabled.set g (c.enabled[g] ||| 1 <<< e.bit) }
  | .pinLevel g high => c.setWire g high
  | .clearEvents word bits => c.clearEvents word bits
  | .adcStartPaused | .adcPause => { c with adc := .paused }
  | .adcResume => { c with adc := .running }
  | .adcStop => { c with adc := .idle }
  | .dmaAbort bits =>
    if bits.toBitVec.getLsbD 0 then
      { c with
        dma := { c.dma with control := c.dma.control &&& ~~~1 }
        pendingPolls := c.abortPolls }
    else c
  | .dmaWriteAddress address => { c with dma := { c.dma with writeAddress := address } }
  | .dmaCount count => { c with dma := { c.dma with remaining := count } }
  | .dmaStart control => { c with dma := { c.dma with control := control, moved := 0 } }
  | .unmaskEdges => { c with unmasked := true }
  | _ => c

/-- The clocks can be started, unless they are broken. -/
def clocksRun (c : Chip) : Bool := !c.clocksBroken

/-- Reads the abort register until it is clear. -/
def awaitAbort (c : Chip) : Chip := { c with pendingPolls := 0 }

end Chip

end SensorBoard
