import SensorBoard.Proofs.History
import SensorBoard.Proofs.Phases
import SensorBoard.Rig.Bench

/-!
# The rig in parts

A rig is one record, but no call reaches all of it: the pins reach the pads, the sampler reaches the
engine that fills the ring, and the tick and the edge interrupt share the capture. `Scene` is a rig
taken apart in this way, without its trace and without what is still to happen in a tick. Every
call is that of the rig, run on the part that it reaches, so calls that reach different parts
commute by construction.

* `Action.part`: the part that an action reaches; `Scene.after` is what it does to a scene.
* `Rig.projects_tick`: **a tick of a rig is the same tick of its scene**.
-/

namespace SensorBoard

variable {ε κ σ τ α β : Type}

namespace Rig

structure Pads where
  loopback : LineMask
  outLevels : LineMask
  inLevels : LineMask
  request : UInt8

/-- The sampler, with its ring and with what it will do in its next calls. -/
structure Engine where
  ring : SampleRing
  written : UInt32
  running : Bool
  afterConfigure : UInt32
  failAt : Option SamplerCall
  onHalt : List Int16
  onResume : List Int16

structure Scene where
  pads : Pads
  engine : Engine
  capture : Capture

def pads (r : Rig) : Pads := ⟨r.loopback, r.outLevels, r.inLevels, r.request⟩

def engine (r : Rig) : Engine :=
  ⟨r.ring, r.written, r.running, r.afterConfigure, r.failAt, r.onHalt, r.onResume⟩

def scene (r : Rig) : Scene := ⟨r.pads, r.engine, r.capture⟩

/-- The scene beside what is to happen inside the calls of the link. -/
def staged (r : Rig) : Held During Scene := ⟨r.during, r.scene⟩

/-- A rig of which only the pads are given. -/
def Pads.rig (p : Pads) : Rig :=
  { loopback := p.loopback, outLevels := p.outLevels, inLevels := p.inLevels, request := p.request }

/-- A rig of which only the engine is given. -/
def Engine.rig (e : Engine) : Rig :=
  { loopback := 0, outLevels := 0, inLevels := 0, ring := e.ring, written := e.written,
    running := e.running, afterConfigure := e.afterConfigure, failAt := e.failAt,
    onHalt := e.onHalt, onResume := e.onResume }

/-- A rig of which only the capture is given. -/
def captureRig (c : Capture) : Rig := { loopback := 0, outLevels := 0, inLevels := 0, capture := c }

/-! ## Calls on a part -/

namespace Scene

def onPads (x : Step Rig α) : Step Scene α := fun s =>
  let (a, r) := x.runOn s.pads.rig
  (a, { s with pads := r.pads })

def onEngine (x : Step Rig α) : Step Scene α := fun s =>
  let (a, r) := x.runOn s.engine.rig
  (a, { s with engine := r.engine })

def onCapture (x : Step Rig α) : Step Scene α := fun s =>
  let (a, r) := x.runOn (captureRig s.capture)
  (a, { s with capture := r.capture })

theorem runOn_onPads (x : Step Rig α) (s : Scene) :
    (onPads x).runOn s =
      ((x.runOn s.pads.rig).1, { s with pads := (x.runOn s.pads.rig).2.pads }) := rfl

theorem runOn_onEngine (x : Step Rig α) (s : Scene) :
    (onEngine x).runOn s =
      ((x.runOn s.engine.rig).1, { s with engine := (x.runOn s.engine.rig).2.engine }) := rfl

theorem runOn_onCapture (x : Step Rig α) (s : Scene) :
    (onCapture x).runOn s = ((x.runOn (captureRig s.capture)).1,
      { s with capture := (x.runOn (captureRig s.capture)).2.capture }) := rfl

/-- A call of the sampler, which may fail. -/
def calling (x : Attempt SamplerCall Rig α) : Attempt SamplerCall Scene α :=
  ExceptT.mk (onEngine x.run)

theorem runOn_calling (x : Attempt SamplerCall Rig α) (s : Scene) :
    (calling x).runOn s =
      ((x.runOn s.engine.rig).1, { s with engine := (x.runOn s.engine.rig).2.engine }) := rfl

instance : OutputPin Line Scene where
  drive l high := onPads (OutputPin.drive l high)

instance : InputPin Line Scene where
  isHigh l := onPads (InputPin.isHigh l)

instance : Sampler Scene where
  written := calling Sampler.written
  halt := calling Sampler.halt
  configure t := calling (Sampler.configure t)
  resume := calling Sampler.resume
  sampleAt i := onEngine (Sampler.sampleAt i)

instance : SharedCapture Scene where
  load := onCapture SharedCapture.load
  store c := onCapture (SharedCapture.store c)

instance : CriticalSection Scene where
  enter := return ()
  leave := return ()

/-- A scene has no trace, so a message leaves it as it is. -/
instance : Logger Scene where
  log _ := return ()

end Scene

/-! ## Actions on a part -/

inductive Part
  | digital
  | capture
  | analog
deriving DecidableEq

def Action.part : Action → Part
  | driveInputs _ | request _ => .digital
  | edge .. | recalibrate _ => .capture
  | push _ | ringWrite .. | setWritten _ | setAfterConfigure _ | fail _ | onHalt _ | onResume _ =>
    .analog

/-- An action never fails, whatever the rig. -/
def Action.Harmless (a : Action) : Prop := ∀ r, (a.perform.runOn r).1 = .ok ()

namespace Scene

def act (a : Action) : Act Scene Unit :=
  ExceptT.mk <| match a.part with
    | .digital => onPads a.perform.run
    | .capture => onCapture a.perform.run
    | .analog => onEngine a.perform.run

/-- What an action that does not fail does to a scene. -/
def after (s : Scene) (a : Action) : Scene := ((act a).runOn s).2

/-- An action leaves the parts that it does not reach, and does not look at them. -/
theorem runOn_act (a : Action) (s : Scene) :
    (act a).runOn s = match a.part with
      | .digital => ((a.perform.runOn s.pads.rig).1,
          { s with pads := (a.perform.runOn s.pads.rig).2.pads })
      | .capture => ((a.perform.runOn (captureRig s.capture)).1,
          { s with capture := (a.perform.runOn (captureRig s.capture)).2.capture })
      | .analog => ((a.perform.runOn s.engine.rig).1,
          { s with engine := (a.perform.runOn s.engine.rig).2.engine }) := by
  unfold act
  cases a.part <;> rfl

end Scene

/-- The link of a rig, with what is to happen inside its calls beside the scene. -/
def playing (inside : During → List Action) : Act (Held During Scene) Unit := do
  (inside (← get).own).forM fun a => .onWorld (Scene.act a)

instance : Link (Held During Scene) where
  requested := do
    playing During.requested
    return (← get).world.pads.request
  inputs _ := playing During.inputs
  widths _ := playing During.widths
  pitot _ := playing During.pitot
  battery _ _ := playing During.battery
  range _ := playing During.range

/-! ## A rig and its scene -/

theorem projects_pins : PinView Line Line staged where
  drive _ _ _ := rfl
  isHigh _ _ := rfl
  log _ _ := rfl

theorem projects_capture : CaptureView staged where
  load _ := rfl
  enter _ := rfl
  leave _ := rfl

/-- A delivery reaches the engine alone. -/
theorem staged_push (r : Rig) (ss : List Int16) :
    (r.push ss).staged = ⟨r.during, { r.scene with engine := (r.engine.rig.push ss).engine }⟩ := by
  induction ss generalizing r with
  | nil => rfl
  | cons s ss ih => exact ih (r.pushOne s)

theorem runOn_reach (call : SamplerCall) (e : Rig → Event) (r : Rig) :
    (reach call e).runOn r =
      if r.failAt = some call then (.error call, { r.note (e r) with failAt := none })
      else (.ok (), r.note (e r)) := by
  by_cases h : r.failAt = some call <;>
    simp only [reach, Attempt.runOn_bind, Attempt.runOn_modify, Attempt.follow_ok,
      Attempt.runOn_get, note, h, if_true, if_false]
  · rfl
  · rfl

/-- A call reaches the engine alone if that is so of what it does once it has come through. -/
theorem projects_reach {call : SamplerCall} {e : Rig → Event} {f : Unit → Attempt SamplerCall Rig α}
    (hf : Attempt.Projects staged (f ()) (.onWorld (Scene.calling (f ())))) :
    Attempt.Projects staged (reach call e >>= f)
      (.onWorld (Scene.calling (reach call e >>= f))) := by
  intro r
  simp only [Attempt.runOn_onWorld, Scene.runOn_calling, Attempt.runOn_bind, runOn_reach]
  rw [show r.staged.world.engine.rig.failAt = r.failAt from rfl]
  by_cases h : r.failAt = some call
  · rw [if_pos h, if_pos h]
    rfl
  rw [if_neg h, if_neg h]
  -- the trace that the call left behind makes no difference to what follows
  have h₁ := hf (r.note (e r))
  have h₂ := hf (r.engine.rig.note (e r.engine.rig))
  simp only [Attempt.runOn_onWorld, Scene.runOn_calling, Prod.mk.injEq] at h₁ h₂
  refine Prod.ext (h₂.1.symm.trans h₁.1) ?_
  have he := congrArg (fun h : Held During Scene => h.world.engine) h₂.2
  exact (congrArg (fun e => (⟨r.during, r.pads, e, r.capture⟩ : Held During Scene)) he.symm).trans
    h₁.2

theorem projects_sampler : View staged where
  written := projects_reach fun _ => rfl
  halt := projects_reach fun r =>
    Prod.ext rfl (staged_push { r with running := false, onHalt := [] } r.onHalt).symm
  configure _ := projects_reach fun _ => rfl
  resume := projects_reach fun r =>
    Prod.ext rfl (staged_push { r with running := true, onResume := [] } r.onResume).symm
  sampleAt _ _ := rfl
  log _ _ := rfl
  enter _ := rfl
  leave _ := rfl

theorem runOn_edge (levels : UInt8) (now : UInt32) (r : Rig) :
    (Action.edge levels now).perform.runOn r =
      let r' := if LineMask.ofByte levels = r.capture.levels then r else r.note (.counted now)
      (.ok (), { r' with capture := r.capture.after (.snapshot levels now) }) := by
  have h : (Action.edge levels now).perform.runOn r =
      let o := (r.capture.observe levels (counterAt now)).runOn r
      (.ok (), { o.2 with capture := o.1 }) := rfl
  rw [h, Capture.runOn_observe]
  rfl

theorem projects_perform (a : Action) :
    Attempt.Projects staged a.perform (.onWorld (Scene.act a)) := by
  intro r
  cases a with
  | push ss => exact Prod.ext rfl (staged_push r ss).symm
  | ringWrite i s => rfl
  | setWritten n => rfl
  | setAfterConfigure n => rfl
  | fail call => rfl
  | onHalt ss => rfl
  | onResume ss => rfl
  | driveInputs levels => rfl
  | request mask => rfl
  | edge levels now =>
    rw [Attempt.runOn_onWorld, Scene.runOn_act]
    simp only [Action.part, runOn_edge]
    -- the counter leaves a note, and only if it was read
    by_cases h : LineMask.ofByte levels = r.capture.levels
    · simp only [if_pos h]
      rfl
    · simp only [if_neg h]
      rfl
  | recalibrate w =>
    rw [Attempt.runOn_onWorld, Scene.runOn_act]
    simp only [Action.part, Action.perform, Attempt.runOn_bind, Attempt.runOn_of]
    cases w.window with
    | error e => rfl
    | ok v => rfl

theorem projects_linkCall (call : LinkCall) (inside : During → List Action) :
    Attempt.Projects staged (linkCall call inside) (playing inside) := by
  intro r
  have h := Attempt.Projects.forM projects_perform (inside r.during) (r.note (.link call))
  simp only [linkCall, playing, Attempt.runOn_bind, Attempt.runOn_modify, Attempt.runOn_get,
    Attempt.follow_ok]
  exact h

theorem projects_link :
    LinkView staged (inferInstance : Link Rig) (inferInstance : Link (Held During Scene)) where
  requested := (projects_linkCall _ _).bind fun _ _ => rfl
  inputs _ := projects_linkCall _ _
  widths _ := projects_linkCall _ _
  pitot _ := projects_linkCall _ _
  battery _ _ := projects_linkCall _ _
  range _ := projects_linkCall _ _

/-- **A tick of a rig is the same tick of its scene.** -/
theorem projects_tick : Attempt.Projects (Held.view staged)
    (Block.tick : Act (Held (Block Line Line) Rig) Report) Block.tick :=
  Block.projects_tickOver projects_link projects_pins projects_capture projects_sampler

/-! ## Actions that do not fail -/

variable {as : List Action}

/-- The one action that can fail is to ask for a window that does not exist. -/
theorem harmless_iff (a : Action) :
    a.Harmless ↔ ∀ w, a = .recalibrate w → ∃ v, w.window = .ok v := by
  cases a with
  | recalibrate w =>
    simp only [Action.Harmless, Action.perform, Attempt.runOn_bind, Attempt.runOn_of,
      Action.recalibrate.injEq, forall_eq']
    cases w.window with
    | error e => exact ⟨fun h => (nomatch h (.start 0 0 0)), fun ⟨v, hv⟩ => (nomatch hv)⟩
    | ok v => exact ⟨fun _ => ⟨v, rfl⟩, fun _ _ => rfl⟩
  | edge levels now => exact ⟨fun _ _ h => (nomatch h), fun _ r => by rw [runOn_edge]⟩
  | _ => exact ⟨fun _ _ h => (nomatch h), fun _ _ => rfl⟩

/-- Actions that do not fail do to a scene what they do to the rig. -/
theorem runOn_act_harmless {a : Action} (ha : a.Harmless) (s : Scene) :
    (Scene.act a).runOn s = (.ok (), s.after a) := by
  have hfst : ((Scene.act a).runOn s).1 = .ok () := by
    rw [Scene.runOn_act]
    split <;> exact ha _
  exact Prod.ext hfst rfl

theorem runOn_acts (hs : ∀ a ∈ as, a.Harmless) (s : Scene) :
    (as.forM Scene.act).runOn s = (.ok (), as.foldl Scene.after s) := by
  induction as generalizing s with
  | nil => rfl
  | cons a as ih =>
    change Attempt.runOn (Scene.act a >>= fun _ => as.forM Scene.act) s = _
    rw [Attempt.runOn_bind, runOn_act_harmless (hs a List.mem_cons_self)]
    exact ih (fun b hb => hs b (List.mem_cons_of_mem a hb)) _

/-- The same beside what is still to happen. -/
theorem runOn_acts_beside (hs : ∀ a ∈ as, a.Harmless) (d : During) (s : Scene) :
    Attempt.runOn (as.forM fun a => Attempt.onWorld (Scene.act a)) (⟨d, s⟩ : Held During Scene) =
      (.ok (), ⟨d, as.foldl Scene.after s⟩) := by
  have hbeside (a : Action) : Attempt.Projects (fun s : Scene => (⟨d, s⟩ : Held During Scene))
      (Scene.act a) (.onWorld (Scene.act a)) := fun _ => rfl
  have h := Attempt.Projects.forM hbeside as s
  rw [runOn_acts hs] at h
  exact h

theorem runOn_performs (hs : ∀ a ∈ as, a.Harmless) (r : Rig) :
    ((as.forM Action.perform).runOn r).1 = .ok () ∧
      ((as.forM Action.perform).runOn r).2.scene = as.foldl Scene.after r.scene := by
  have h := Attempt.Projects.forM projects_perform as r
  rw [staged, runOn_acts_beside hs] at h
  exact ⟨(congrArg Prod.fst h).symm, (congrArg (fun x => x.2.world) h).symm⟩

end Rig

end SensorBoard
