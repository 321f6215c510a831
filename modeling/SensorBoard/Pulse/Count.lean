/-!
# Extending a short counter

A 16-bit counter is fast but wraps every 1.31 ms. A coarse estimate of the full count, near enough,
tells which of the counts with these low bits is meant.
-/

namespace SensorBoard

/-- The full count from a coarse estimate and the exact low 16 bits: the count with these low bits
that lies nearest to the estimate, a tie going down. The skew between the two is taken as a signed
16-bit difference, so the upper bits are corrected across a boundary in either direction. -/
def extendLow (coarse : UInt32) (low : UInt16) : UInt32 :=
  let skew := (low - coarse.toUInt16).toInt16
  coarse + skew.toInt32.toUInt32

end SensorBoard
