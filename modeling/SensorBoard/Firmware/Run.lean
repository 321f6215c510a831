import SensorBoard.Chip.Machine
import SensorBoard.Firmware.Program

/-!
# Runs of the program

A run takes the program on a simulated machine from reset to the end of its script. Whenever the
program's loop waits, a segment of the run closes; then the next entry of the script happens to the
machine, a millisecond passes, and the loop goes on. With the script at its end the power goes off.
-/

namespace SensorBoard.Firmware

/-- What spoils a start. -/
inductive Flaw
  | clocks
  | peripherals
  | ring

def Flaw.spoil (m : Machine) : Flaw → Machine
  | clocks => m.onChip fun c => { c with clocksBroken := true }
  | peripherals => m.onChip fun c => { c with peripheralsTaken := true }
  | ring => { m with ringTaken := true }

/-- Something that happens while the program waits. -/
inductive Stimulus
  | action (a : Machine.Action)
  | interrupt

/-- What happens on a stimulus. If the edge interrupt is then raised and let through, its handler
runs once. -/
def Stimulus.happen (s : Stimulus) : Step Machine Unit := do
  match s with
  | action a => modify (·.act a)
  | interrupt => edgeInterrupt
  if (← get).chip.interrupts then
    edgeInterrupt

/-- One entry of a script: what happens in a wait, and for how many rounds it is repeated. -/
structure Entry where
  stimuli : List Stimulus
  rounds : Nat := 1

/-- The ticks of the clock between two rounds of the loop. -/
def roundTicks : Nat := 50000

/-- A stretch of a run: the events since the last wait, and the machine at this one. -/
structure Segment where
  events : Array Machine.Event
  machine : Machine

structure Outcome where
  segments : List Segment := []
  /-- What ended the run, unless the power went off. -/
  fatal : Option Fatal := none
  /-- The events after the last segment. -/
  rest : Array Machine.Event := #[]

/-- The machine that a running program works on. -/
def machine (r : Running Machine) : Machine := r.world.world.world

def onMachine {α : Type} (x : Step Machine α) : Step (Running Machine) α :=
  .onWorld (.onWorld (.onWorld x))

def forget (m : Machine) : Machine := { m with trace := #[] }

/-- One wait and the round of the loop after it; only their events are kept. -/
def round (stimuli : List Stimulus) : Act (Running Machine) Unit := do
  .lift <| onMachine do
    modify forget
    stimuli.forM Stimulus.happen
    modify (·.act (.advance roundTicks))
  cycle

/-- A number of rounds in which the same happens. -/
def rounds (stimuli : List Stimulus) : Nat → Act (Running Machine) Unit
  | 0 => return ()
  | n + 1 => do
    round stimuli
    rounds stimuli n

/-- Plays a script after a wait of the program; an entry of no rounds leaves no segment. -/
def play (script : List Entry) (r : Running Machine) : Outcome :=
  match script with
  | [] => {}
  | e :: rest =>
    if e.rounds = 0 then play rest r
    else
      match (rounds e.stimuli e.rounds).run r with
      | (.ok (), r) =>
        let m := machine r
        let later := play rest r
        { later with segments := ⟨m.trace, m⟩ :: later.segments }
      | (.error f, r) => { fatal := some f, rest := (machine r).trace }

/-- **A run of the program** on a machine that was just reset. The first segment is the start and
the first round. -/
def run (script : List Entry) (m : Machine) : Outcome :=
  match boot.run m with
  | (.error f, m) => { fatal := some f, rest := m.trace }
  | (.ok parts, m) =>
    match cycle.run (parts.inWorld m) with
    | (.ok (), r) =>
      let m := machine r
      let later := play script r
      { later with segments := ⟨m.trace, m⟩ :: later.segments }
    | (.error f, r) => { fatal := some f, rest := (machine r).trace }

end SensorBoard.Firmware
