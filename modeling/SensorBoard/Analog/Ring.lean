/-!
# The sample ring

A circular store of 256 raw samples that the converter fills in rotation. Indexes are 64-bit words
and count on for ever; only their remainder by the capacity matters.

* `read_write`: a sample that was written is read back at every index of the same slot, and at no
  other.
-/

namespace SensorBoard

/-- Channels converted in rotation. -/
def channelCount : Nat := 4

/-- Raw samples taken per channel for every reading that is published. -/
def oversampling : Nat := 16

/-- The ring's length in samples: two oversampled rounds of every channel, twice over. -/
def ringCapacity : Nat := channelCount * oversampling * 2 * 2

/-- The circular store of raw samples, in rotation `0 1 2 3 0 1 2 3 …` over the channels. -/
structure SampleRing where
  slots : Vector Int16 ringCapacity
deriving DecidableEq

namespace SampleRing

def zero : SampleRing := ⟨Vector.replicate _ 0⟩

def slot (i : UInt64) : Fin ringCapacity := ⟨i.toNat % ringCapacity, Nat.mod_lt _ (by decide)⟩

def read (r : SampleRing) (i : UInt64) : Int16 := r.slots[slot i]

def write (r : SampleRing) (i : UInt64) (s : Int16) : SampleRing := ⟨r.slots.set (slot i) s⟩

/-- Stores samples at an index and the ones after it. -/
def writeAll (r : SampleRing) (i : UInt64) : List Int16 → SampleRing
  | [] => r
  | s :: ss => (r.write i s).writeAll (i + 1) ss

def readMany (r : SampleRing) (i : UInt64) (count : Nat) : List Int16 :=
  (List.range count).map fun k => r.read (i + k.toUInt64)

@[simp] theorem read_zero (i : UInt64) : zero.read i = 0 := by simp [zero, read]

/-- **A write is seen at its own slot and nowhere else.** -/
theorem read_write (r : SampleRing) (i j : UInt64) (s : Int16) :
    (r.write i s).read j = if slot i = slot j then s else r.read j := by
  simp only [read, write, Fin.getElem_fin, Vector.getElem_set, Fin.ext_iff]

end SampleRing

end SensorBoard
