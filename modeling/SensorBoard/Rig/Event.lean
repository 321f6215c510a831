import SensorBoard.Analog.Sampler
import SensorBoard.Log

/-!
# What a rig sees

A rig stands in for the board's surroundings and notes, in order, every call that reaches it.
-/

namespace SensorBoard.Rig

/-- A call of the link, with the values it carried. -/
inductive LinkCall
  | requested
  | inputs (levels : UInt8)
  | widths (w : PerLine UInt16)
  | pitot (v : UInt16)
  | battery (current voltage : UInt16)
  | range (v : UInt16)
deriving DecidableEq

def LinkCall.text : LinkCall → String
  | requested => "gpout"
  | inputs levels => s!"gpin {levels}"
  | widths w => "pwm " ++ Text.list (w.toList.map toString)
  | pitot v => s!"pitot {v}"
  | battery current voltage => s!"iv {current} {voltage}"
  | range v => s!"range {v}"

inductive Event
  | drove (line : Line) (high : Bool)
  | sensed (line : Line)
  /-- The counter that times the pulses was read. -/
  | counted (now : UInt32)
  | written (count : UInt32)
  | halted
  | resumed
  /-- The sampler was given a transfer, into the rig's ring or another one. -/
  | configured (ownRing : Bool) (transfer : Transfer) (running : Bool)
  | link (call : LinkCall)
  | logged (m : Message)
deriving DecidableEq

namespace Event

/-- The level of an event from the log; all other events are seen at any setting. -/
def level : Event → Option Level
  | logged m => some m.level
  | _ => none

/-- Whether an event is seen at a setting of the log. -/
def shownAt (setting : Option Level) (e : Event) : Bool :=
  match e.level with
  | some l => setting.any (·.takes l)
  | none => true

def text : Event → String
  | drove l high => if high then s!"out{l.index} high" else s!"out{l.index} low"
  | sensed l => s!"in{l.index} read"
  | counted now => s!"now {now}"
  | written count => s!"written {count}"
  | halted => "halt"
  | resumed => "resume"
  | configured ownRing t running =>
    let base := if ownRing then "ring" else "other"
    let state := if running then "running" else "halted"
    s!"configure base={base} len={t.length} mask={t.channelMask} {state}"
  | link call => "comms " ++ call.text
  | logged m => s!"log {m.level.name} {m.text}"

end Event

end SensorBoard.Rig
