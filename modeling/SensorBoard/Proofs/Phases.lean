import SensorBoard.Proofs.Observed
import SensorBoard.Tick

/-!
# The phases of a tick

Between two calls of its link a tick does one thing: it applies the outputs and reads the inputs,
loads the capture, or acquires. Each of these phases reaches another part of the world, so how two
worlds are related can be said part by part.

* `PinView`, `CaptureView`, `LinkView`: maps of worlds through which the calls of one part do the
  same, beside `View` for the part of the acquisition.
* `Block.tickOver`: a tick over a given link.
* `Block.projects_tickOver`: **a tick does on a world what it does on the image**.
-/

namespace SensorBoard

variable {ε κ κ' σ τ α β O I : Type}

/-! ## Building on what is the same -/

namespace Step.Projects

variable {π : τ → σ} {x : Step τ α} {y : Step σ α}

theorem pure (a : α) : Projects π (Pure.pure a) (Pure.pure a) := fun _ => rfl

theorem bind {f : α → Step τ β} {g : α → Step σ β} (hx : Projects π x y)
    (hf : ∀ a, Projects π (f a) (g a)) : Projects π (x >>= f) (y >>= g) := by
  intro t
  rw [runOn_bind, runOn_bind, hx t]
  exact hf _ _

theorem forM {f : β → Step τ Unit} {g : β → Step σ Unit} (h : ∀ b, Projects π (f b) (g b))
    (bs : List β) : Projects π (bs.forM f) (bs.forM g) := by
  induction bs with
  | nil => exact pure ()
  | cons b bs ih => exact (h b).bind fun _ => ih

theorem onWorld (hx : Projects π x y) :
    Projects (Held.view (κ := κ) π) (Step.onWorld x) (Step.onWorld y) := by
  intro h
  rw [Held.view, runOn_onWorld, runOn_onWorld, hx]
  rfl

theorem lift (hx : Projects π x y) :
    Attempt.Projects (ε := ε) π (ExceptT.lift x) (ExceptT.lift y) := by
  intro t
  rw [Attempt.runOn_lift, Attempt.runOn_lift, hx t]

theorem onPart {get : κ → κ'} {put : κ' → κ → κ} {x : Step (Held κ' τ) α}
    {y : Step (Held κ' σ) α} (hx : Projects (Held.view π) x y) :
    Projects (Held.view π) (Step.onPart get put x) (Step.onPart get put y) := by
  intro h
  have := hx ⟨get h.own, h.world⟩
  rw [Held.view] at this
  rw [Held.view, runOn_onPart, runOn_onPart, this]
  rfl

end Step.Projects

namespace Attempt.Projects

variable {π : τ → σ}

theorem pure (a : α) : Projects (ε := ε) π (Pure.pure a) (Pure.pure a) := fun _ => rfl

theorem forM {f : β → Attempt ε τ Unit} {g : β → Attempt ε σ Unit}
    (h : ∀ b, Projects π (f b) (g b)) (bs : List β) : Projects π (bs.forM f) (bs.forM g) := by
  induction bs with
  | nil => exact pure ()
  | cons b bs ih => exact (h b).bind fun _ => ih

theorem onWorld {x : Attempt ε τ α} {y : Attempt ε σ α} (hx : Projects π x y) :
    Projects (Held.view (κ := κ) π) (Attempt.onWorld x) (Attempt.onWorld y) := by
  intro h
  rw [Held.view, runOn_onWorld, runOn_onWorld, hx]
  rfl

theorem onPart {get : κ → κ'} {put : κ' → κ → κ} {x : Attempt ε (Held κ' τ) α}
    {y : Attempt ε (Held κ' σ) α} (hx : Projects (Held.view π) x y) :
    Projects (Held.view π) (Attempt.onPart get put x) (Attempt.onPart get put y) := by
  intro h
  have := hx ⟨get h.own, h.world⟩
  rw [Held.view] at this
  rw [Held.view, runOn_onPart, runOn_onPart, this]
  rfl

end Attempt.Projects

/-! ## The digital phase -/

namespace Controller

section

variable [OutputPin O σ] [Logger σ]

/-- A mask that is applied already touches nothing; any other one is applied to every pin. -/
theorem runOn_setOutputs (mask : UInt8) (c : Controller O I) (w : σ) :
    (setOutputs mask).runOn ⟨c, w⟩ =
      if LineMask.ofByte mask = c.applied then (false, ⟨c, w⟩)
      else (true, ⟨{ c with applied := LineMask.ofByte mask },
        ((driveAll c.outputs (LineMask.ofByte mask)).runOn
          ((log (.outputs c.applied (LineMask.ofByte mask))).runOn w).2).2⟩) := by
  change Step.runOn (if LineMask.ofByte mask = c.applied then _ else _) _ = _
  by_cases h : LineMask.ofByte mask = c.applied
  · rw [if_pos h, if_pos h]
    rfl
  · rw [if_neg h, if_neg h]
    rfl

/-- **After a mask was set it is the one applied**, whether or not pins had to be driven. -/
theorem applied_setOutputs (mask : UInt8) (d : Held (Controller O I) σ) :
    ((setOutputs mask).runOn d).2.own = { d.own with applied := LineMask.ofByte mask } := by
  obtain ⟨c, w⟩ := d
  rw [runOn_setOutputs]
  split
  · rename_i h; rw [h]
  · rfl

end

variable [InputPin I σ]

/-- Reads every input, in line order. -/
def senseAll (pins : PerLine I) : Step σ (PerLine Bool) := do
  return ⟨← InputPin.isHigh pins.gp0, ← InputPin.isHigh pins.gp1, ← InputPin.isHigh pins.gp2,
    ← InputPin.isHigh pins.gp3⟩

/-- Reading the inputs packs one level per line, and changes nothing of the controller. -/
theorem runOn_readInputs (c : Controller O I) (w : σ) :
    readInputs.runOn ⟨c, w⟩ =
      let r := (senseAll c.inputs).runOn w
      (LineMask.ofFn r.1.get, ⟨c, r.2⟩) := rfl

end Controller

section PinView

variable [OutputPin O τ] [InputPin I τ] [Logger τ] [OutputPin O σ] [InputPin I σ] [Logger σ]

/-- A map of worlds through which every call to the pins does the same. -/
structure PinView (O I : Type) [OutputPin O τ] [InputPin I τ] [Logger τ] [OutputPin O σ]
    [InputPin I σ] [Logger σ] (π : τ → σ) : Prop where
  drive (pin : O) (high : Bool) :
    Step.Projects π (OutputPin.drive pin high) (OutputPin.drive pin high)
  isHigh (pin : I) : Step.Projects π (InputPin.isHigh pin) (InputPin.isHigh pin)
  log (m : Message) : Step.Projects π (log m) (log m)

namespace PinView

variable {π : τ → σ} (v : PinView O I π)

include v

theorem setOutputs (mask : UInt8) : Step.Projects (Held.view (κ := Controller O I) π)
    (Controller.setOutputs mask) (Controller.setOutputs mask) := by
  rintro ⟨c, w⟩
  have hd : Step.Projects π (Controller.driveAll c.outputs (LineMask.ofByte mask))
      (Controller.driveAll c.outputs (LineMask.ofByte mask)) := .forM (fun _ => v.drive _ _) _
  rw [Held.view, Controller.runOn_setOutputs, Controller.runOn_setOutputs, v.log _ w, hd]
  split <;> rfl

theorem readInputs : Step.Projects (Held.view (κ := Controller O I) π)
    Controller.readInputs Controller.readInputs := by
  rintro ⟨c, w⟩
  have hs : Step.Projects π (Controller.senseAll c.inputs) (Controller.senseAll c.inputs) :=
    (v.isHigh _).bind fun _ => (v.isHigh _).bind fun _ => (v.isHigh _).bind fun _ =>
      (v.isHigh _).bind fun _ => .pure _
  rw [Held.view, Controller.runOn_readInputs, Controller.runOn_readInputs, hs]
  rfl

end PinView

end PinView

/-! ## The capture phase -/

@[simp] theorem SharedCapture.latestWidths_held [SharedCapture σ] [CriticalSection σ] :
    (latestWidths : Step (Held κ σ) (PerLine UInt16)) = .onWorld latestWidths := rfl

section CaptureView

variable [SharedCapture τ] [CriticalSection τ] [SharedCapture σ] [CriticalSection σ]

structure CaptureView (π : τ → σ) : Prop where
  load : Step.Projects π SharedCapture.load SharedCapture.load
  enter : Step.Projects π CriticalSection.enter CriticalSection.enter
  leave : Step.Projects π CriticalSection.leave CriticalSection.leave

theorem CaptureView.latestWidths {π : τ → σ} (v : CaptureView π) :
    Step.Projects π SharedCapture.latestWidths SharedCapture.latestWidths :=
  v.enter.bind fun _ => (v.load.bind fun _ => .pure _).bind fun _ => v.leave.bind fun _ => .pure _

end CaptureView

/-! ## The whole tick -/

/-- A map of worlds through which every call of one link does what that of another does. -/
structure LinkView (π : τ → σ) (k : Link τ) (l : Link σ) : Prop where
  requested : Attempt.Projects π k.requested l.requested
  inputs (levels : UInt8) : Attempt.Projects π (k.inputs levels) (l.inputs levels)
  widths (w : PerLine UInt16) : Attempt.Projects π (k.widths w) (l.widths w)
  pitot (v : UInt16) : Attempt.Projects π (k.pitot v) (l.pitot v)
  battery (current voltage : UInt16) :
    Attempt.Projects π (k.battery current voltage) (l.battery current voltage)
  range (v : UInt16) : Attempt.Projects π (k.range v) (l.range v)

namespace Block

def tickOver [OutputPin O σ] [InputPin I σ] [Sampler σ] [SharedCapture σ] [CriticalSection σ]
    [Logger σ] (k : Link σ) : Act (Held (Block O I) σ) Report :=
  let _ := k
  tick

variable {π : τ → σ}

theorem projects_onDigital {x : Step (Held (Controller O I) τ) α}
    {y : Step (Held (Controller O I) σ) α} (h : Step.Projects (Held.view π) x y) :
    Attempt.Projects (Held.view π) (onDigital x) (onDigital y) :=
  h.onPart.lift

variable [OutputPin O τ] [InputPin I τ] [Sampler τ] [SharedCapture τ] [CriticalSection τ] [Logger τ]
  [OutputPin O σ] [InputPin I σ] [Sampler σ] [SharedCapture σ] [CriticalSection σ] [Logger σ]

/-- **A tick does on a world what it does on the image**, if each of its calls does. -/
theorem projects_tickOver {k : Link τ} {l : Link σ} (link : LinkView π k l) (pins : PinView O I π)
    (capture : CaptureView π) (sampler : View π) :
    Attempt.Projects (Held.view π) (tickOver k : Act (Held (Block O I) τ) Report)
      (tickOver l) :=
  link.requested.onWorld.bind fun mask => (projects_onDigital (pins.setOutputs mask)).bind fun _ =>
  (projects_onDigital pins.readInputs).bind fun levels => (link.inputs levels.toByte).onWorld.bind
  fun _ => capture.latestWidths.onWorld.lift.bind fun w => (link.widths w).onWorld.bind fun _ =>
  sampler.acquire.onPart.bind fun r => (link.pitot r.readings.pitot).onWorld.bind fun _ =>
  (link.battery r.readings.batteryCurrent r.readings.batteryVoltage).onWorld.bind fun _ =>
  (link.range r.readings.aux).onWorld.bind fun _ => .pure _

end Block

end SensorBoard
