import SensorBoard.Analog.Sampler
import SensorBoard.Board.Pin
import SensorBoard.Log

/-!
# The converter and its transfer

The analog converter takes the four pads in rotation, and a DMA channel moves each sample to the
ring, its write address wrapping at the ring's end. The transfer's count starts at the largest word
and runs down, so its complement is the number of samples written. When it runs out the transfer
stops, and the pipeline sees a stall and sets it up again.

The converter is in one of two hands: at hand (`adc`), or feeding a transfer through its queue
(`fifo`).
-/

namespace SensorBoard

def sysClockHz : UInt32 := 125000000

def adcClockHz : UInt32 := 48000000

/-- Conversions per second, over all channels. -/
def adcSampleRate : UInt32 := (channelCount * oversampling * 2 * 1000).toUInt32

/-- A conversion starts every `1 + adcClockDivider` clocks of the converter. -/
def adcClockDivider : UInt16 := (adcClockHz / adcSampleRate - 1).toUInt16

/-- The processor cycles of one conversion, which takes 2 us. -/
def conversionCycles : UInt32 := 2 * (sysClockHz / 1000000)

/-- The address that converted samples are read from. -/
def adcFifoAddress : UInt32 := 0x4004c00c

/-- The request line on which the converter asks for a transfer. -/
def adcRequestLine : UInt32 := 36

def dmaChannel : UInt32 := 0

/-- The number of zeros below the lowest bit that is set; 32 for the word without one. -/
def trailingZeros (w : UInt32) : Nat := ((List.range 32).find? w.toBitVec.getLsbD).getD 32

/-- The control word of a transfer into a ring: enabled, of half-words, with the write address going
up and wrapping within `2 ^ ringSize` bytes, paced by the converter, chained to nothing. The ring
size has four bits. -/
def dmaControl (ringSize : Nat) : UInt32 :=
  let enable : UInt32 := 0x1
  let halfWords : UInt32 := 0x4
  let advanceWrites : UInt32 := 0x20
  let size : UInt32 := (ringSize.toUInt32 &&& 0xf) <<< 6
  let wrapWrites : UInt32 := 0x400
  let chain : UInt32 := dmaChannel <<< 11
  let request : UInt32 := adcRequestLine <<< 15
  enable ||| halfWords ||| advanceWrites ||| size ||| wrapWrites ||| chain ||| request

/-- The converter, its pads, and the transfer that it feeds. -/
structure AdcDma where
  /-- The converter is at hand. -/
  adc : Bool
  /-- The converter feeds the transfer. -/
  fifo : Bool
  inputs : PerChannel AdcInput
deriving DecidableEq

namespace AdcDma

variable {σ : Type}

/-- Takes over a converter that is on; nothing is converted before the first transfer. -/
def start [Logger σ] (inputs : PerChannel AdcInput) : Step σ AdcDma := do
  log (.conversionRate adcSampleRate adcClockDivider)
  return ⟨true, false, inputs⟩

variable [Device σ]

/-- The samples moved since the transfer was set up. -/
def written : Step (Held AdcDma σ) UInt32 := do
  if (← get).own.fifo then
    return 0xffffffff - (← Device.dmaRemaining)
  else
    return 0

/-- Stops conversions. A conversion that had started still lands in the queue, so the queue is
cleared only after the time of one. -/
def halt : Step (Held AdcDma σ) Unit := do
  if (← get).own.fifo then
    perform .adcPause
    perform (.delayCycles conversionCycles)
    perform .adcClear

def resume : Step (Held AdcDma σ) Unit := do
  if (← get).own.fifo then
    perform .adcResume

/-- Gives the converter back from the transfer that it feeds, if there is one. -/
def release : Step (Held AdcDma σ) Unit := do
  if (← get).own.fifo then
    perform .adcStop
    .onOwn (modify fun a => { a with adc := true, fifo := false })

/-- Sets the converter up to feed a transfer, paused, with the rotation at its first channel, in
step with the first slot of the ring. -/
def feed : Step (Held AdcDma σ) Unit := do
  let inputs := (← get).own.inputs
  .onOwn (modify fun a => { a with adc := false })
  perform (.adcDivider adcClockDivider 0)
  perform (.adcFirst inputs.pitot)
  perform (.adcRotation inputs)
  perform .adcRequestDma
  perform .adcStartPaused

/-- Points the DMA channel at a ring and starts it, with the largest count there is. -/
def arm (t : Transfer) : Step (Held AdcDma σ) Unit := do
  perform (.dmaReadAddress adcFifoAddress)
  perform (.dmaWriteAddress t.base)
  perform (.dmaCount 0xffffffff)
  perform (.dmaStart (dmaControl (trailingZeros (t.length * 2).toUInt32)))

/-- Ends the transfer in progress and sets up a new one. Without the converter nothing is set
up. -/
def configure (t : Transfer) : Step (Held AdcDma σ) Unit := do
  perform (.dmaAbort (1 <<< dmaChannel))
  Device.awaitAbort
  release
  if (← get).own.adc then
    feed
    arm t
    .onOwn (modify fun a => { a with fifo := true })

end AdcDma

end SensorBoard
