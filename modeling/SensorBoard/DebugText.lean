import SensorBoard.Tick

/-!
# Debug texts

The one-line texts of the board's values, as a debugger's log shows them: each record with its name
and all its fields, in the order in which the board declares them.
-/

namespace SensorBoard

def Line.name : Line → String
  | .gp0 => "Gp0"
  | .gp1 => "Gp1"
  | .gp2 => "Gp2"
  | .gp3 => "Gp3"

def Direction.name : Direction → String
  | .input => "Input"
  | .output => "Output"

def Pull.name : Pull → String
  | .none => "None"
  | .up => "Up"
  | .down => "Down"

def Channel.name : Channel → String
  | .pitot => "Pitot"
  | .batteryCurrent => "BatteryCurrent"
  | .batteryVoltage => "BatteryVoltage"
  | .aux => "Aux"

def LineConfig.debugText (c : LineConfig) : String :=
  Text.record "DigitalLine"
    [("line", c.line.name), ("direction", c.direction.name), ("pull", c.pull.name)]

def Window.debugText (w : Window) : String :=
  Text.record "PwmCalibration" [("t_low", toString w.low), ("t_high", toString w.high)]

def Capture.debugText (c : Capture) : String :=
  Text.record "PwmInputCapture"
    [("calibration", c.window.debugText),
     ("levels", toString c.levels.toNat),
     ("edge_timestamps", Text.list (c.stamps.toList.map toString)),
     ("pulse_widths", Text.list (c.widths.toList.map toString))]

def Readings.debugText (r : Readings) : String :=
  Text.record "AnalogReadings"
    [("pitot", toString r.pitot),
     ("battery_current", toString r.batteryCurrent),
     ("battery_voltage", toString r.batteryVoltage),
     ("aux", toString r.aux)]

def Fault.debugText : Fault → String
  | .stalled => "Stalled"
  | .overflow unread => Text.record "Overflow" [("unread", toString unread)]

def Acquisition.debugText (a : Acquisition) : String :=
  Text.record "Acquisition"
    [("readings", Readings.debugText a.readings),
     ("fault", Text.option (a.fault.map Fault.debugText))]

def Report.debugText (r : Report) : String :=
  Text.record "TickReport"
    [("inputs", toString r.inputs.toNat),
     ("pulse_widths", Text.list (r.widths.toList.map toString)),
     ("analog", Readings.debugText r.analog),
     ("fault", Text.option (r.fault.map Fault.debugText))]

end SensorBoard
