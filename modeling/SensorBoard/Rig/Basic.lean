import SensorBoard.Rig.Event
import SensorBoard.Tick

/-!
# The rig

A rig is a simulated world for the board's logic: four output and four input pins, some of them
wired together, a sampler that delivers what it is told to and fails when it is told to, a link, the
shared capture, and a trace of all that happened. `Action` is what can happen around the board, also
in the middle of a call of the link (`During`).
-/

namespace SensorBoard

namespace Rig

/-- Something that happens in the board's surroundings. -/
inductive Action
  | push (samples : List Int16)
  | ringWrite (index : UInt64) (sample : Int16)
  | setWritten (count : UInt32)
  /-- The sampler will count from here when it is given a transfer. -/
  | setAfterConfigure (count : UInt32)
  /-- The sampler will fail in the next call of a kind, or in none. -/
  | fail (call : Option SamplerCall)
  /-- The sampler will deliver samples when it is halted next. -/
  | onHalt (samples : List Int16)
  /-- The sampler will deliver samples when it is resumed next. -/
  | onResume (samples : List Int16)
  /-- The input pins are driven from outside. -/
  | driveInputs (levels : LineMask)
  | request (mask : UInt8)
  | edge (levels : UInt8) (now : UInt32)
  | recalibrate (window : Window.Choice)

/-- What happens inside the calls of the link on one tick. -/
structure During where
  requested : List Action := []
  inputs : List Action := []
  widths : List Action := []
  pitot : List Action := []
  battery : List Action := []
  range : List Action := []

end Rig

/-- The board's surroundings, simulated. -/
structure Rig where
  /-- The inputs that are the same wire as the output of their number. -/
  loopback : LineMask
  outLevels : LineMask
  /-- The levels of the inputs with a wire of their own. -/
  inLevels : LineMask
  ring : SampleRing := .zero
  written : UInt32 := 0
  running : Bool := false
  afterConfigure : UInt32 := 0
  failAt : Option SamplerCall := none
  onHalt : List Int16 := []
  onResume : List Int16 := []
  capture : Capture := .start .reference
  request : UInt8 := 0
  during : Rig.During := {}
  trace : Array Rig.Event := #[]

namespace Rig

def ringBase : UInt32 := 0x20000000

/-- A rig with its wires at the given levels; on a shared wire the output's level stands. -/
def start (loopback inLevels outLevels : LineMask) : Rig := { loopback, inLevels, outLevels }

def inputs (r : Rig) : LineMask := (r.outLevels &&& r.loopback) ||| (r.inLevels &&& ~~~r.loopback)

@[simp] theorem has_inputs (r : Rig) (l : Line) :
    r.inputs.has l = if r.loopback.has l then r.outLevels.has l else r.inLevels.has l := by
  cases h : r.loopback.has l <;> simp [inputs, h]

def note (r : Rig) (e : Event) : Rig := { r with trace := r.trace.push e }

/-- Sets the level of one output wire. -/
def driveOutput (r : Rig) (l : Line) (high : Bool) : Rig :=
  let others := r.outLevels &&& ~~~LineMask.only l
  { r with outLevels := if high then others ||| LineMask.only l else others }

def driveOutputs (r : Rig) (levels : LineMask) : Rig := { r with outLevels := levels }

/-- Sets the levels of the input wires, shared ones included. -/
def driveInputs (r : Rig) (levels : LineMask) : Rig :=
  { r with
    inLevels := levels
    outLevels := (r.outLevels &&& ~~~r.loopback) ||| (levels &&& r.loopback) }

/-- The sampler delivers one sample, to the slot of its count. -/
def pushOne (r : Rig) (s : Int16) : Rig :=
  { r with ring := r.ring.write r.written.toUInt64 s, written := r.written + 1 }

def push (r : Rig) (samples : List Int16) : Rig := samples.foldl pushOne r

/-- A call reaches the sampler: it is noted, and fails if it is the one that should. A failure is
used up. -/
def reach (call : SamplerCall) (e : Rig → Event) : Attempt SamplerCall Rig Unit := do
  modify fun r => r.note (e r)
  if (← get).failAt = some call then
    modify fun r => { r with failAt := none }
    throw call

instance : Sampler Rig where
  written := do
    reach .written fun r => .written r.written
    return (← get).written
  halt := do
    reach .halt fun _ => .halted
    modify fun r => { r with running := false, onHalt := [] }.push r.onHalt
  configure t := do
    reach .configure fun r => .configured (t.base == ringBase) t r.running
    modify fun r => { r with written := r.afterConfigure }
  resume := do
    reach .resume fun _ => .resumed
    modify fun r => { r with running := true, onResume := [] }.push r.onResume
  sampleAt i := return (← get).ring.read i

instance : OutputPin Line Rig where
  drive l high := modify fun r => (r.note (.drove l high)).driveOutput l high

instance : InputPin Line Rig where
  isHigh l := modifyGet fun r => (r.inputs.has l, r.note (.sensed l))

instance : SharedCapture Rig where
  load := return (← get).capture
  store c := modify fun r => { r with capture := c }

instance : CriticalSection Rig where
  enter := return ()
  leave := return ()

instance : Logger Rig where
  log m := modify fun r => r.note (.logged m)

/-- A counter that stands at a value; reading it is noted. -/
def counterAt (now : UInt32) : Step Rig UInt32 := modifyGet fun r => (now, r.note (.counted now))

/-- What an action does. Only asking for a window that does not exist fails, before anything
changes. -/
def Action.perform : Action → Act Rig Unit
  | push samples => modify fun r => r.push samples
  | ringWrite index s => modify fun r => { r with ring := r.ring.write index s }
  | setWritten count => modify fun r => { r with written := count }
  | setAfterConfigure count => modify fun r => { r with afterConfigure := count }
  | fail call => modify fun r => { r with failAt := call }
  | onHalt samples => modify fun r => { r with onHalt := samples }
  | onResume samples => modify fun r => { r with onResume := samples }
  | driveInputs levels => modify fun r => r.driveInputs levels
  | request mask => modify fun r => { r with request := mask }
  | edge levels now => .lift (SharedCapture.inputEdge levels (counterAt now))
  | recalibrate window => do
    let w ← .of window.window
    .lift (SharedCapture.recalibrate w)

/-- A call of the link: it is noted, and then what happens inside it happens. -/
def linkCall (call : LinkCall) (inside : During → List Action) : Act Rig Unit := do
  modify fun r => r.note (.link call)
  (inside (← get).during).forM Action.perform

instance : Link Rig where
  requested := do
    linkCall .requested During.requested
    return (← get).request
  inputs levels := linkCall (.inputs levels) During.inputs
  widths w := linkCall (.widths w) During.widths
  pitot v := linkCall (.pitot v) During.pitot
  battery current voltage := linkCall (.battery current voltage) During.battery
  range v := linkCall (.range v) During.range

end Rig

end SensorBoard
