import SensorBoard.Chip.Device
import SensorBoard.DebugText

/-!
# Texts of commands

The words in which a trace of the chip shows what the program did.
-/

namespace SensorBoard

/-- The name of the interrupt that an edge raises. -/
def Edge.name : Edge → String
  | .rising => "EdgeHigh"
  | .falling => "EdgeLow"

/-- The name of a direction as a pin function. -/
def Direction.function : Direction → String
  | .input => "input"
  | .output => "output"

/-- The text of a command; `ringBase` is the address that counts as the sample ring's. -/
def Command.text (ringBase : UInt32) : Command → String
  | pinFunction g d => s!"gpio{g} {d.function}"
  | pinPull g p => s!"gpio{g} pull {p.name}"
  | pinInterrupt g e => s!"gpio{g} irq {e.name} on"
  | pinAnalog g => s!"gpio{g} analog"
  | pinLevel g high => if high then s!"gpio{g} high" else s!"gpio{g} low"
  | clearEvents word bits => s!"intr{word} = {bits}"
  | adcOn => "adc on"
  | adcDivider whole part => s!"adc divider {whole} {part}"
  | adcFirst input => s!"adc channel {input}"
  | adcRotation i => s!"adc round_robin {i.pitot} {i.batteryCurrent} {i.batteryVoltage} {i.aux}"
  | adcRequestDma => "adc dma"
  | adcStartPaused => "adc start_paused"
  | adcPause => "adc pause"
  | adcClear => "adc clear"
  | adcResume => "adc resume"
  | adcStop => "adc stop"
  | delayCycles cycles => s!"asm delay {cycles}"
  | dmaAbort bits => s!"dma abort = {bits}"
  | dmaReadAddress address => s!"dma read_addr = {address}"
  | dmaWriteAddress address =>
    if address = ringBase then "dma write_addr = ring" else "dma write_addr = other"
  | dmaCount count => s!"dma trans_count = {count}"
  | dmaStart control => s!"dma ctrl_trig = {control}"
  | sliceDividerWhole value => s!"slice div_int {value}"
  | sliceDividerPart value => s!"slice div_frac {value}"
  | sliceTop value => s!"slice top {value}"
  | sliceEnable => "slice enable"
  | startClocks crystalHz => s!"clocks {crystalHz}"
  | unmaskEdges => "unmask IO_IRQ_BANK0"
  | delayMicros us => s!"delay {us}"

end SensorBoard
