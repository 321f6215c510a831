import SensorBoard.Chip.Machine

/-!
# A machine that does not wait

On the machine nothing happens while the program runs. Here something may happen before each of its
operations: a wire changes, time passes, the converter delivers. What happens, and when, is a list
that all statements quantify over.

* `Exposed.pass`: what happens before the next operation.
* `Exposed.amid`: an operation of the machine, with that before it; every class that the machine is
  an instance of is carried over this way.
* `pass_keeps`: what every action keeps, a pass keeps.
-/

namespace SensorBoard

/-- A machine, and what happens to it before each of the operations to come. When the list is at its
end, nothing more happens. -/
structure Exposed where
  machine : Machine
  coming : List (List Machine.Action)

namespace Exposed

variable {α : Type}

/-- The machine before the next operation, and what comes after that. -/
def pass (x : Exposed) : Exposed :=
  ⟨(x.coming.headD []).foldl Machine.act x.machine, x.coming.tail⟩

/-- An operation of the machine, and what happens before it. -/
def amid (op : Step Machine α) : Step Exposed α := do
  let x := pass (← get)
  let (a, machine) := op.runOn x.machine
  set { x with machine := machine }
  return a

@[simp] theorem runOn_amid (op : Step Machine α) (x : Exposed) :
    (amid op).runOn x = ((op.runOn x.pass.machine).1,
      { x.pass with machine := (op.runOn x.pass.machine).2 }) := rfl

theorem pass_keeps {P : Machine → Prop} (hact : ∀ m a, P m → P (m.act a)) {x : Exposed}
    (h : P x.machine) : P x.pass.machine := by
  have hall : ∀ (acts : List Machine.Action) (m : Machine), P m → P (acts.foldl Machine.act m) := by
    intro acts
    induction acts with
    | nil => exact fun m hm => hm
    | cons a acts ih => exact fun m hm => ih (m.act a) (hact m a hm)
  exact hall _ _ h

/-- The program's own memory is not changed from outside. -/
theorem memory_pass (x : Exposed) : x.pass.machine.edgeSource = x.machine.edgeSource ∧
    x.pass.machine.capture = x.machine.capture := by
  refine pass_keeps (P := fun m => m.edgeSource = x.machine.edgeSource ∧
    m.capture = x.machine.capture) (fun m a hm => ?_) ⟨rfl, rfl⟩
  cases a <;> exact hm

instance : Device Exposed where
  perform c := amid (perform c)
  takePeripherals := amid Device.takePeripherals
  clocksRun := amid Device.clocksRun
  pinHigh g := amid (Device.pinHigh g)
  pinLevels := amid Device.pinLevels
  timer := amid Device.timer
  slice := amid Device.slice
  dmaRemaining := amid Device.dmaRemaining
  awaitAbort := amid Device.awaitAbort

instance : Statics Exposed where
  requested := amid Statics.requested
  takeRing := amid Statics.takeRing
  ringSample i := amid (Statics.ringSample i)
  edgeSource := amid Statics.edgeSource
  installEdgeSource e := amid (Statics.installEdgeSource e)

instance : SharedCapture Exposed where
  load := amid SharedCapture.load
  store c := amid (SharedCapture.store c)

instance : CriticalSection Exposed where
  enter := amid CriticalSection.enter
  leave := amid CriticalSection.leave

instance : Logger Exposed where
  log m := amid (log m)

end Exposed

end SensorBoard
