import SensorBoard.Board.EdgeLatch

/-!
# What the program holds outside its loop

Besides the shared capture, the program and its interrupt share a mask of requested outputs, the
source of edges, and the memory of the sample ring, which can be taken once.
-/

namespace SensorBoard

/-- A world with the program's shared values. -/
class Statics (σ : Type) where
  /-- The output mask that the link was asked for last. -/
  requested : Step σ UInt8
  /-- Takes the sample ring, giving its address; only the first taker gets it. -/
  takeRing : Step σ (Option UInt32)
  ringSample : UInt64 → Step σ Int16
  edgeSource : Step σ (Option EdgeSource)
  installEdgeSource : EdgeSource → Step σ Unit

namespace Statics

variable {κ σ : Type}

instance [Statics σ] : Statics (Held κ σ) where
  requested := .onWorld requested
  takeRing := .onWorld takeRing
  ringSample i := .onWorld (ringSample i)
  edgeSource := .onWorld edgeSource
  installEdgeSource e := .onWorld (installEdgeSource e)

/-- The sample ring for the transfer to fill; a second request is refused with a warning. -/
def createRing [Statics σ] [Logger σ] : Step σ (Option UInt32) := do
  let ring ← takeRing
  if ring.isNone then
    log .ringExists
  return ring

end Statics

end SensorBoard
