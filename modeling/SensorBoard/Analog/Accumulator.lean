import SensorBoard.Fatal
import SensorBoard.Analog.Ring

/-!
# Averaging one channel

Between two ticks a channel's samples are clamped and summed; closing the window publishes sixteen
times their mean. Both operations check their bounds first and change nothing when a check fails.
-/

namespace SensorBoard

/-- The largest sample that counts; larger ones count as this. -/
def sampleMax : Int16 := 2047

/-- The largest average that may be published. -/
def averageMax : UInt32 := 32768

/-- The most samples of one channel that the ring can hold. -/
def windowLimit : UInt16 := (ringCapacity / channelCount).toUInt16

/-- A raw sample cut to the range from 0 to `sampleMax`. Conversion errors set the sign, so a
negative sample counts as 0. -/
def clampSample (s : Int16) : UInt16 :=
  if s < 0 then 0
  else if s ≥ sampleMax then sampleMax.toUInt16
  else s.toUInt16

/-- The sums of one channel in the window that is open, and the last average published. -/
structure Accumulator where
  total : UInt32 := 0
  count : UInt16 := 0
  /-- The average that the last window was closed with. -/
  average : UInt16 := 0
deriving DecidableEq

namespace Accumulator

def Cleared (a : Accumulator) : Prop := a.total = 0 ∧ a.count = 0

/-- Adds a raw sample to the window. -/
def accumulate (s : Int16) : Act Accumulator Unit := do
  let a ← get
  if a.count < windowLimit then
    set { a with total := a.total + (clampSample s).toUInt32, count := a.count + 1 }
  else
    throw .channelOverfull

/-- Adds raw samples in turn, up to the first that is refused. -/
def accumulateAll : List Int16 → Act Accumulator Unit
  | [] => pure ()
  | s :: ss => do
    accumulate s
    accumulateAll ss

/-- Sixteen times the mean of the window, rounded down; 0 for a window without samples. The shift
keeps 32 bits. -/
def scaledMean (a : Accumulator) : UInt32 :=
  if a.count = 0 then 0 else (a.total <<< 4) / a.count.toUInt32

/-- Closes the window: publishes its average and clears the sums. -/
def publish : Act Accumulator UInt16 := do
  let a ← get
  if a.scaledMean ≤ averageMax then
    set { average := a.scaledMean.toUInt16 : Accumulator }
    return a.scaledMean.toUInt16
  else
    throw .averageOutOfRange

end Accumulator

end SensorBoard
