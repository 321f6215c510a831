import SensorBoard.Board.Statics
import SensorBoard.Chip.Basic
import SensorBoard.Chip.Command

/-!
# The machine

A machine is a simulated chip with the program's shared values in its memory and a trace of what the
program did. `Action` is what happens to the machine from outside.
-/

namespace SensorBoard

namespace Machine

inductive Event
  | did (c : Command)
  /-- The level of a pin was read. -/
  | sensed (pin : Gpio)
  | logged (m : Message)
deriving DecidableEq

namespace Event

/-- The level of an event from the log; all other events are seen at any setting. -/
def level : Event → Option Level
  | logged m => some m.level
  | _ => none

/-- Whether an event is seen at a setting of the log. -/
def shownAt (setting : Option Level) (e : Event) : Bool :=
  match e.level with
  | some l => setting.any (·.takes l)
  | none => true

def text : Event → String
  | did c => c.text Chip.ringBase
  | sensed g => s!"gpio{g} read"
  | logged m => s!"log {m.level.name} {m.text}"

end Event

/-- Something that happens to the machine from outside. -/
inductive Action
  /-- The wires under a mask take the levels of a word. -/
  | wires (levels mask : BitVec 32)
  /-- Time passes, in ticks of 50 MHz. -/
  | advance (ticks : Nat)
  /-- The fine counter alone moves ahead. -/
  | skew (ticks : UInt16)
  | convert (samples : List Int16)
  | setRemaining (count : UInt32)
  /-- Aborts will take a number of reads to come through. -/
  | setAbortPolls (polls : Nat)
  | request (mask : UInt8)

end Machine

/-- A chip, the program's shared values, and what the program did. -/
structure Machine where
  chip : Chip := {}
  capture : Capture := .start .reference
  request : UInt8 := 0
  ringTaken : Bool := false
  edgeSource : Option EdgeSource := none
  trace : Array Machine.Event := #[]

namespace Machine

def note (m : Machine) (e : Event) : Machine := { m with trace := m.trace.push e }

def onChip (m : Machine) (f : Chip → Chip) : Machine := { m with chip := f m.chip }

instance : Device Machine where
  perform c := modify fun m => (m.note (.did c)).onChip (·.apply c)
  takePeripherals :=
    modifyGet fun m =>
      (!m.chip.peripheralsTaken, m.onChip fun c => { c with peripheralsTaken := true })
  clocksRun := return (← get).chip.clocksRun
  pinHigh g := modifyGet fun m => (m.chip.wires.getLsbD g, m.note (.sensed g))
  pinLevels := return (← get).chip.wires
  timer := return (← get).chip.timer
  slice := return (← get).chip.slice
  dmaRemaining := return (← get).chip.dma.remaining
  awaitAbort := modify (·.onChip Chip.awaitAbort)

instance : Statics Machine where
  requested := return (← get).request
  takeRing :=
    modifyGet fun m =>
      (if m.ringTaken then none else some Chip.ringBase, { m with ringTaken := true })
  ringSample i := return (← get).chip.ring.read i
  edgeSource := return (← get).edgeSource
  installEdgeSource e := modify fun m => { m with edgeSource := some e }

instance : SharedCapture Machine where
  load := return (← get).capture
  store c := modify fun m => { m with capture := c }

instance : CriticalSection Machine where
  enter := return ()
  leave := return ()

instance : Logger Machine where
  log m := modify (·.note (.logged m))

/-- What an action does; whether an interrupt follows is not its matter. -/
def act (m : Machine) : Action → Machine
  | .wires levels mask =>
    m.onChip fun c => c.setWires ((c.wires &&& ~~~mask) ||| (levels &&& mask))
  | .advance ticks => m.onChip (·.advance ticks)
  | .skew ticks => m.onChip fun c => { c with sliceStart := c.sliceStart + ticks }
  | .convert samples => m.onChip (·.convert samples)
  | .setRemaining count => m.onChip fun c => { c with dma := { c.dma with remaining := count } }
  | .setAbortPolls polls => m.onChip fun c => { c with abortPolls := polls }
  | .request mask => { m with request := mask }

end Machine

end SensorBoard
