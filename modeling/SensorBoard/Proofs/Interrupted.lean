import SensorBoard.Proofs.Heard
import SensorBoard.Proofs.Keeping

/-!
# A program that is interrupted

Before each of the program's operations anything may happen to the machine, and the edge handler may
run any number of times, unless its interrupt is masked or the program is in a critical section.
What happens, and when, is a list that all statements quantify over. While the handler runs, wires
and time go on as well, but it is not interrupted itself.

* `Exposed.batch`: the snapshot that a run of the handler takes; `capture_edgeInterrupt` says that
  this is all it does to the capture, and `capture_edgeInterrupt_idle` that without a source it does
  nothing to it.
* `Interrupted`: a machine in this position, with the runs of the handler on record as they were
  entered.
* `Shared`: what program and handler share. `shared_happen` says that only a run of the handler
  changes it from outside, and `shared_pass` that nothing does in a critical section.
* `Interrupted.callsKeep`: **what no run of the handler spoils stays true wherever the program is
  interrupted**, until the program itself writes what it shares.
-/

namespace SensorBoard

/-! ## What the handler does to the capture -/

namespace Exposed

variable {e : EdgeSource} {x : Exposed}

theorem capture_acknowledge (l : EdgeLatch) (x : Exposed) :
    (l.acknowledge.runOn x).2.machine.capture = x.machine.capture := by
  have hperform (c : Command) :
      Step.Keeps (fun y : Exposed => y.machine.capture = x.machine.capture) (perform c) := by
    intro y h
    show ((amid (perform c)).runOn y).2.machine.capture = x.machine.capture
    rw [runOn_amid]
    exact y.memory_pass.2.trans h
  have hall : Step.Keeps (fun y : Exposed => y.machine.capture = x.machine.capture)
      l.acknowledge := .forM (fun _ => hperform _) _
  exact hall x rfl

/-- The levels as the handler of a source reads them, and the machine by then. -/
def taken (e : EdgeSource) (x : Exposed) : LineMask × Exposed :=
  e.latch.levels.runOn (e.latch.acknowledge.runOn x.pass.pass).2

/-- The snapshot that a run of the handler takes with a source; the counter is read last. -/
def batch (e : EdgeSource) (x : Exposed) : Batch :=
  x.machine.capture.batch (taken e x).1 (e.counter.now.runOn (taken e x).2.pass.pass).1

/-- The snapshot that a run of the handler takes, if it finds a source. -/
def batch? (x : Exposed) : Option Batch := x.machine.edgeSource.map x.batch

theorem capture_taken (e : EdgeSource) (x : Exposed) :
    (taken e x).2.machine.capture = x.machine.capture :=
  calc (taken e x).2.machine.capture
      = (e.latch.acknowledge.runOn x.pass.pass).2.pass.machine.capture := rfl
    _ = (e.latch.acknowledge.runOn x.pass.pass).2.machine.capture := (memory_pass _).2
    _ = x.pass.pass.machine.capture := capture_acknowledge _ _
    _ = x.machine.capture := x.pass.memory_pass.2.trans x.memory_pass.2

theorem capture_edgeInterrupt_of (h : x.machine.edgeSource = some e) :
    (Firmware.edgeInterrupt.runOn x).2.machine.capture =
      x.machine.capture.record (x.batch e).after (x.batch e).now := by
  let loaded : Exposed := (taken e x).2.pass.pass
  have hloaded : loaded.machine.capture = x.machine.capture :=
    ((taken e x).2.pass.memory_pass.2.trans (taken e x).2.memory_pass.2).trans (capture_taken e x)
  let observed : Capture × Exposed :=
    (loaded.machine.capture.observe (taken e x).1.toByte e.counter.now).runOn loaded
  have hobserved : observed.1 = x.machine.capture.record (x.batch e).after (x.batch e).now := by
    show ((loaded.machine.capture.observe (taken e x).1.toByte e.counter.now).runOn loaded).1 = _
    rw [Capture.runOn_observe, Capture.after_snapshot, LineMask.ofByte_toByte, hloaded]
    rfl
  let stored : Exposed :=
    { observed.2.pass with machine := { observed.2.pass.machine with capture := observed.1 } }
  rw [runOn_edgeInterrupt h]
  show stored.pass.pass.machine.capture = _
  rw [stored.pass.memory_pass.2, stored.memory_pass.2]
  exact hobserved

/-- Without a source the handler only looks for one, inside its critical section. -/
theorem runOn_edgeInterrupt_idle (h : x.machine.edgeSource = none) :
    (Firmware.edgeInterrupt.runOn x).2 = x.pass.pass.pass := by
  have hentered : x.pass.pass.machine.edgeSource = none :=
    x.pass.memory_pass.1.trans (x.memory_pass.1.trans h)
  have henter : (CriticalSection.enter : Step Exposed Unit).runOn x = ((), x.pass) := rfl
  have hfound : (Statics.edgeSource : Step Exposed (Option EdgeSource)).runOn x.pass =
      (none, x.pass.pass) := Prod.ext hentered rfl
  unfold Firmware.edgeInterrupt
  simp only [Step.runOn_atomically, henter, Step.runOn_bind, hfound]
  rfl

/-- **Without a source a run of the handler changes nothing of the capture.** -/
theorem capture_edgeInterrupt_idle (h : x.machine.edgeSource = none) :
    (Firmware.edgeInterrupt.runOn x).2.machine.capture = x.machine.capture := by
  rw [runOn_edgeInterrupt_idle h]
  exact x.pass.pass.memory_pass.2.trans (x.pass.memory_pass.2.trans x.memory_pass.2)

/-- **What a run of the handler does to the capture is its snapshot**, if it takes one. -/
theorem capture_edgeInterrupt (x : Exposed) :
    (Firmware.edgeInterrupt.runOn x).2.machine.capture =
      x.batch?.elim x.machine.capture fun b => x.machine.capture.record b.after b.now := by
  cases h : x.machine.edgeSource with
  | some e =>
    rw [capture_edgeInterrupt_of h, batch?, h]
    rfl
  | none =>
    rw [capture_edgeInterrupt_idle h, batch?, h]
    rfl

/-- The handler only reads the source. -/
theorem edgeSource_edgeInterrupt (x : Exposed) :
    (Firmware.edgeInterrupt.runOn x).2.machine.edgeSource = x.machine.edgeSource := by
  cases h : x.machine.edgeSource with
  | some e => exact (edgeInterrupt_heard h).1
  | none =>
    rw [runOn_edgeInterrupt_idle h]
    exact x.pass.pass.memory_pass.1.trans (x.pass.memory_pass.1.trans (x.memory_pass.1.trans h))

end Exposed

/-! ## The world of the program -/

/-- A machine whose program is interrupted. -/
structure Interrupted where
  machine : Machine
  /-- What happens before each of the program's operations to come; at the end of the list nothing
  more happens. -/
  coming : List (List Machine.Happening)
  /-- The critical sections that were entered and not left. -/
  depth : Nat := 0
  /-- The runs of the handler so far, each with the machine as it was entered. -/
  handled : List Exposed := []

/-- What the program shares with the handler, and what the handler has done. -/
@[ext]
structure Shared where
  source : Option EdgeSource
  capture : Capture
  handled : List Exposed

namespace Shared

/-- The snapshots that the handler has taken so far. -/
def history (s : Shared) : List Batch := s.handled.filterMap Exposed.batch?

/-- A run of the handler is entered with what is shared. -/
def Enters (s : Shared) (r : Exposed) : Prop :=
  r.machine.edgeSource = s.source ∧ r.machine.capture = s.capture

/-- After a run of the handler, its snapshot is in the capture. -/
def after (s : Shared) (r : Exposed) : Shared where
  source := s.source
  capture := r.batch?.elim s.capture fun b => s.capture.record b.after b.now
  handled := s.handled ++ [r]

end Shared

namespace Interrupted

variable {α : Type}

/-- Something happens. The handler does not run while its interrupt is masked or a critical section
is active. -/
def happen (x : Interrupted) : Machine.Happening → Interrupted
  | .action a => { x with machine := x.machine.act a }
  | .handler coming =>
    if x.machine.chip.unmasked ∧ x.depth = 0 then
      { x with
        machine := x.machine.after (.handler coming)
        handled := x.handled ++ [⟨x.machine, coming⟩] }
    else x

/-- The world before the program's next operation. -/
def pass (x : Interrupted) : Interrupted :=
  (x.coming.headD []).foldl happen { x with coming := x.coming.tail }

/-- An operation of the machine, and what happens before it. -/
def amid (op : Step Machine α) : Step Interrupted α := do
  let x := pass (← get)
  let (a, machine) := op.runOn x.machine
  set { x with machine := machine }
  return a

instance : Device Interrupted where
  perform c := amid (perform c)
  takePeripherals := amid Device.takePeripherals
  clocksRun := amid Device.clocksRun
  pinHigh g := amid (Device.pinHigh g)
  pinLevels := amid Device.pinLevels
  timer := amid Device.timer
  slice := amid Device.slice
  dmaRemaining := amid Device.dmaRemaining
  awaitAbort := amid Device.awaitAbort

instance : Statics Interrupted where
  requested := amid Statics.requested
  takeRing := amid Statics.takeRing
  ringSample i := amid (Statics.ringSample i)
  edgeSource := amid Statics.edgeSource
  installEdgeSource e := amid (Statics.installEdgeSource e)

instance : SharedCapture Interrupted where
  load := amid SharedCapture.load
  store c := amid (SharedCapture.store c)

instance : Logger Interrupted where
  log m := amid (log m)

instance : CriticalSection Interrupted where
  enter := do
    amid CriticalSection.enter
    modify fun x => { x with depth := x.depth + 1 }
  leave := do
    amid CriticalSection.leave
    modify fun x => { x with depth := x.depth - 1 }

/-- What program and handler share. -/
def shared (x : Interrupted) : Shared := ⟨x.machine.edgeSource, x.machine.capture, x.handled⟩

/-- **What happens leaves what is shared, or is a run of the handler.** -/
theorem shared_happen (x : Interrupted) (s : Machine.Happening) :
    (x.happen s).shared = x.shared ∨
      x.depth = 0 ∧ ∃ r, x.shared.Enters r ∧ (x.happen s).shared = x.shared.after r := by
  cases s with
  | action a => exact .inl (by cases a <;> rfl)
  | handler coming =>
    by_cases hrun : x.machine.chip.unmasked = true ∧ x.depth = 0
    · refine .inr ⟨hrun.2, ⟨x.machine, coming⟩, ⟨rfl, rfl⟩, ?_⟩
      rw [happen, if_pos hrun]
      exact Shared.ext (Exposed.edgeSource_edgeInterrupt _) (Exposed.capture_edgeInterrupt _) rfl
    · exact .inl (by rw [happen, if_neg hrun])

theorem depth_happen (x : Interrupted) (s : Machine.Happening) : (x.happen s).depth = x.depth := by
  cases s with
  | action a => rfl
  | handler coming => rw [happen]; split <;> rfl

/-- What is kept by everything that can happen is kept by a pass. -/
theorem pass_keeps {P : Interrupted → Prop} (hhappen : ∀ x s, P x → P (x.happen s))
    {x : Interrupted} (h : P { x with coming := x.coming.tail }) : P x.pass := by
  have hall : ∀ (ss : List Machine.Happening) (y : Interrupted), P y → P (ss.foldl happen y) := by
    intro ss
    induction ss with
    | nil => exact fun y hy => hy
    | cons s ss ih => exact fun y hy => ih (y.happen s) (hhappen y s hy)
  exact hall _ _ h

/-- A critical section holds the handler off, so between two operations inside nothing changes of
what is shared. -/
theorem shared_pass {x : Interrupted} (h : x.depth ≠ 0) : x.pass.shared = x.shared := by
  refine (pass_keeps (P := fun y => y.depth = x.depth ∧ y.shared = x.shared) (fun y s hy => ?_)
    ⟨rfl, rfl⟩).2
  refine ⟨(y.depth_happen s).trans hy.1, ?_⟩
  rcases y.shared_happen s with hsame | ⟨hdepth, -⟩
  · exact hsame.trans hy.2
  · exact absurd (hy.1.symm.trans hdepth) h

theorem depth_pass (x : Interrupted) : x.pass.depth = x.depth :=
  pass_keeps (P := fun y => y.depth = x.depth) (fun y s h => (y.depth_happen s).trans h) rfl

end Interrupted

/-! ## What stays true -/

/-- A fact about what program and handler share that no run of the handler spoils. -/
def Shared.Stable (P : Shared → Prop) : Prop := ∀ s r, s.Enters r → P s → P (s.after r)

namespace Interrupted

variable {P : Shared → Prop}

theorem pass_stable (hP : Shared.Stable P) {x : Interrupted} (h : P x.shared) :
    P x.pass.shared := by
  refine pass_keeps (P := fun y => P y.shared) (fun y s hy => ?_) h
  rcases y.shared_happen s with hsame | ⟨-, r, hr, hafter⟩
  · rwa [hsame]
  · rw [hafter]
    exact hP _ r hr hy

/-- An operation that leaves the shared values keeps what no run of the handler spoils. -/
theorem keeps_amid {α : Type} (hP : Shared.Stable P) {op : Step Machine α}
    (hop : ∀ m, (op.runOn m).2.edgeSource = m.edgeSource ∧ (op.runOn m).2.capture = m.capture) :
    Step.Keeps (fun x : Interrupted => P x.shared) (amid op) := by
  intro x h
  have hsame : ((amid op).runOn x).2.shared = x.pass.shared := by
    obtain ⟨hsource, hcapture⟩ := hop x.pass.machine
    exact Shared.ext hsource hcapture rfl
  rw [hsame]
  exact pass_stable hP h

/-- **What no run of the handler spoils stays true wherever the program is interrupted.** -/
theorem callsKeep (hP : Shared.Stable P) :
    Firmware.CallsKeep fun x : Interrupted => P x.shared where
  perform _ := keeps_amid hP fun _ => ⟨rfl, rfl⟩
  takePeripherals := keeps_amid hP fun _ => ⟨rfl, rfl⟩
  clocksRun := keeps_amid hP fun _ => ⟨rfl, rfl⟩
  pinHigh _ := keeps_amid hP fun _ => ⟨rfl, rfl⟩
  timer := keeps_amid hP fun _ => ⟨rfl, rfl⟩
  slice := keeps_amid hP fun _ => ⟨rfl, rfl⟩
  dmaRemaining := keeps_amid hP fun _ => ⟨rfl, rfl⟩
  awaitAbort := keeps_amid hP fun _ => ⟨rfl, rfl⟩
  requested := keeps_amid hP fun _ => ⟨rfl, rfl⟩
  takeRing := keeps_amid hP fun _ => ⟨rfl, rfl⟩
  ringSample _ := keeps_amid hP fun _ => ⟨rfl, rfl⟩
  enter _ h := pass_stable hP h
  leave _ h := pass_stable hP h
  log _ := keeps_amid hP fun _ => ⟨rfl, rfl⟩

end Interrupted

end SensorBoard
