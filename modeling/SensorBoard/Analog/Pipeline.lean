import SensorBoard.Analog.Accumulator
import SensorBoard.Analog.Sampler
import SensorBoard.Log

/-!
# Analog acquisition

Once per tick `acquire` asks the sampler how far it has come, and either drains the new samples or,
when there are none or too many, starts the transfer anew. In both cases each channel publishes one
average; after a restart the averages are 0.

* `health`: when a backlog is a fault.
* `drain`: reads the backlog from the cursor on, each sample into its channel.
* `recover`: resets the cursor and the transfer, with the sampler halted in between.
* `acquire`: one tick of acquisition.
-/

namespace SensorBoard

/-- The backlog above which the sampler is about to lap the reader. -/
def overrunThreshold : UInt32 := (ringCapacity * 7 / 8).toUInt32

def allChannels : UInt8 := 0b1111

/-- Why a transfer was started anew. -/
inductive Fault
  /-- No sample has come since the last tick. -/
  | stalled
  /-- The sampler got too far ahead of the reader. -/
  | overflow (unread : UInt32)
deriving DecidableEq

def Fault.message : Fault → Message
  | .stalled => .stalled
  | .overflow unread => .overrun unread

/-- The fault of a backlog; a backlog without one can be drained. -/
def health (unread : UInt32) : Option Fault :=
  if unread = 0 then some .stalled
  else if unread > overrunThreshold then some (.overflow unread)
  else none

structure Acquisition where
  /-- The averages, all 0 after a fault. -/
  readings : Readings
  fault : Option Fault
deriving DecidableEq

/-- The reader of a sample ring. -/
structure Pipeline where
  /-- The address of the ring's first slot. -/
  ring : UInt32
  /-- The samples drained since the transfer was set up, modulo `2 ^ 32`. -/
  consumed : UInt32 := 0
  channels : PerChannel Accumulator := .replicate {}
  /-- The number of times the transfer was started anew, modulo `2 ^ 32`. -/
  recoveries : UInt32 := 0
deriving DecidableEq

namespace Pipeline

variable {σ α : Type}

/-- The place in the ring of the next sample to read. -/
def cursor (p : Pipeline) : UInt64 := p.consumed.toUInt64 % ringCapacity.toUInt64

/-- The samples that a sampler's count puts ahead of the reader. -/
def backlog (p : Pipeline) (written : UInt32) : UInt32 := written - p.consumed

/-- The averages published last. -/
def averages (p : Pipeline) : Readings := p.channels.map Accumulator.average

/-- The transfer that fills the pipeline's ring. -/
def transfer (p : Pipeline) : Transfer := ⟨p.ring, ringCapacity, allChannels⟩

/-- A call to the sampler, whose failure ends the operation. -/
def call (x : Attempt SamplerCall σ α) : Act (Held Pipeline σ) α :=
  .onWorld (ExceptT.adapt Fatal.sampler x)

/-- An operation on the accumulator of one channel. -/
def onChannel (c : Channel) (x : Act Accumulator α) : Act (Held Pipeline σ) α :=
  .onOwn <| ExceptT.mk fun p =>
    let (a, acc) := x.runOn (p.channels.get c)
    (a, { p with channels := p.channels.set c acc })

@[simp] theorem runOn_call (x : Attempt SamplerCall σ α) (h : Held Pipeline σ) :
    (call x).runOn h =
      ((x.runOn h.world).1.mapError .sampler, ⟨h.own, (x.runOn h.world).2⟩) := rfl

@[simp] theorem runOn_onChannel (c : Channel) (x : Act Accumulator α) (h : Held Pipeline σ) :
    (onChannel c x).runOn h =
      let r := x.runOn (h.own.channels.get c)
      (r.1, ⟨{ h.own with channels := h.own.channels.set c r.2 }, h.world⟩) := rfl

variable [Sampler σ]

def unread : Act (Held Pipeline σ) UInt32 := do
  let written ← call Sampler.written
  return (← get).own.backlog written

/-- Asking for the backlog leaves the reader as it is, whatever the answer. -/
@[simp] theorem runOn_unread (h : Held Pipeline σ) :
    unread.runOn h =
      let r := Sampler.written.runOn h.world
      ((r.1.mapError Fatal.sampler).map h.own.backlog, ⟨h.own, r.2⟩) := by
  simp only [unread, Attempt.runOn_bind, runOn_call]
  rcases Sampler.written.runOn h.world with ⟨_ | _, _⟩ <;> rfl

variable [Logger σ]

/-- Reads the sample at the cursor into its channel and moves on. -/
def drainOne : Act (Held Pipeline σ) Unit := do
  let index := (← get).own.cursor
  let sample ← ExceptT.lift (.onWorld (Sampler.sampleAt index))
  .lift (log (.drained index (.ofSample index) sample))
  onChannel (.ofSample index) (Accumulator.accumulate sample)
  .onOwn (modify fun p => { p with consumed := p.consumed + 1 })

def drain : Nat → Act (Held Pipeline σ) Unit
  | 0 => return ()
  | n + 1 => do
    drainOne
    drain n

/-- Closes the window of every channel, in turn. -/
def publishAll : Act (Held Pipeline σ) Readings := do
  let pitot ← onChannel .pitot Accumulator.publish
  let batteryCurrent ← onChannel .batteryCurrent Accumulator.publish
  let batteryVoltage ← onChannel .batteryVoltage Accumulator.publish
  let aux ← onChannel .aux Accumulator.publish
  return ⟨pitot, batteryCurrent, batteryVoltage, aux⟩

/-- Resets the cursor and starts the transfer anew. Once the sampler is halted it is resumed,
whether or not it took the new transfer; the recovery counts only if every call succeeded. -/
def recover [CriticalSection σ] (fault : Fault) : Act (Held Pipeline σ) Unit := do
  .lift (log fault.message)
  .onOwn (modify fun p => { p with consumed := 0 })
  let transfer := (← get).own.transfer
  call Sampler.halt
  let configure : Act (Held Pipeline σ) Unit := do
    .lift (log .reconfiguring)
    .atomically (call (Sampler.configure transfer))
  configure.ensuring (call Sampler.resume)
  .onOwn (modify fun p => { p with recoveries := p.recoveries + 1 })

/-- **One tick of acquisition**: drains the backlog, or recovers from a fault, and publishes one
average per channel. -/
def acquire [CriticalSection σ] : Act (Held Pipeline σ) Acquisition := do
  let unread ← unread
  let fault := health unread
  match fault with
  | some f => recover f
  | none => drain unread.toNat
  let readings ← publishAll
  .lift (log (.averages readings))
  return ⟨readings, fault⟩

end Pipeline

end SensorBoard
