import SensorBoard.Proofs.Control
import SensorBoard.Proofs.Phases
import SensorBoard.Rig.Event

/-!
# What a tick publishes

The values of a tick go out by two routes, through the link as they come up and in the report at the
end, and between two calls of the link anything may happen to the world. `Attended` is a world with
one record of all that a tick asks of it, in order, so both routes can be compared, and so can what
is left of a tick that ends early.

* `Block.deeds`: the record of one tick; `Block.runOn_tick_eq_attend` says that keeping it changes
  nothing.
* `Block.Course`: how far a tick comes, with what is on record by then.
* `Block.tick_faithful`: **what a tick reports is what it published**, the inputs were read with the
  requested outputs applied, and a tick that the sampler ends has published no analog value.
-/

namespace SensorBoard

variable {ε σ α O I : Type}

/-- Something that a tick asked of the world. -/
inductive Deed (O I : Type)
  | link (call : Rig.LinkCall)
  /-- The link told which outputs are requested. -/
  | answered (mask : UInt8)
  | drove (pin : O) (high : Bool)
  | sensed (pin : I) (high : Bool)
  | loaded (c : Capture)
  | stored (c : Capture)
  | sampler (call : Call)

namespace Deed

def linkCall : Deed O I → Option Rig.LinkCall
  | link call => some call
  | _ => none

def samplerCall : Deed O I → Option Call
  | sampler call => some call
  | _ => none

@[simp] theorem filterMap_linkCall_sampler (cs : List Call) :
    (cs.map sampler : List (Deed O I)).filterMap linkCall = [] := by
  rw [List.filterMap_map]
  exact List.filterMap_eq_nil_iff.2 fun _ _ => rfl

@[simp] theorem filterMap_samplerCall_sampler (cs : List Call) :
    (cs.map sampler : List (Deed O I)).filterMap samplerCall = cs := by
  rw [List.filterMap_map]
  exact List.filterMap_some

end Deed

/-- A world with a record of what was asked of it. -/
structure Attended (O I σ : Type) where
  world : σ
  deeds : List (Deed O I) := []

namespace Attended

/-- A call, put on record with its outcome. -/
def noting (record : Except ε α → Deed O I) (x : Attempt ε σ α) : Attempt ε (Attended O I σ) α :=
  ExceptT.mk fun a =>
    let (r, world) := x.runOn a.world
    (r, ⟨world, a.deeds ++ [record r]⟩)

def notingStep (record : α → Deed O I) (x : Step σ α) : Step (Attended O I σ) α := fun a =>
  let (r, world) := x.runOn a.world
  (r, ⟨world, a.deeds ++ [record r]⟩)

def unnoted (x : Step σ α) : Step (Attended O I σ) α := fun a =>
  let (r, world) := x.runOn a.world
  (r, ⟨world, a.deeds⟩)

@[simp] theorem runOn_noting (record : Except ε α → Deed O I) (x : Attempt ε σ α)
    (a : Attended O I σ) :
    (noting record x).runOn a =
      ((x.runOn a.world).1, ⟨(x.runOn a.world).2, a.deeds ++ [record (x.runOn a.world).1]⟩) := rfl

instance [OutputPin O σ] : OutputPin O (Attended O I σ) where
  drive pin high := notingStep (fun _ => .drove pin high) (OutputPin.drive pin high)

instance [InputPin I σ] : InputPin I (Attended O I σ) where
  isHigh pin := notingStep (.sensed pin) (InputPin.isHigh pin)

instance [SharedCapture σ] : SharedCapture (Attended O I σ) where
  load := notingStep .loaded SharedCapture.load
  store c := notingStep (fun _ => .stored c) (SharedCapture.store c)

instance [CriticalSection σ] : CriticalSection (Attended O I σ) where
  enter := unnoted CriticalSection.enter
  leave := unnoted CriticalSection.leave

instance [Logger σ] : Logger (Attended O I σ) where
  log m := unnoted (log m)

instance [Sampler σ] : Sampler (Attended O I σ) where
  written := noting (fun r => .sampler (.written r)) Sampler.written
  halt := noting (fun r => .sampler (.halt r)) Sampler.halt
  configure t := noting (fun r => .sampler (.configure t r)) (Sampler.configure t)
  resume := noting (fun r => .sampler (.resume r)) Sampler.resume
  sampleAt i := unnoted (Sampler.sampleAt i)

/-- A call of the link. What happens to the world inside it is not the tick's doing. -/
def calling (call : Rig.LinkCall) (x : Act σ α) : Act (Attended O I σ) α :=
  noting (fun _ => .link call) x

instance [Link σ] : Link (Attended O I σ) where
  requested := do
    let mask ← calling .requested Link.requested
    modify fun a => { a with deeds := a.deeds ++ [.answered mask] }
    return mask
  inputs levels := calling (.inputs levels) (Link.inputs levels)
  widths w := calling (.widths w) (Link.widths w)
  pitot v := calling (.pitot v) (Link.pitot v)
  battery current voltage := calling (.battery current voltage) (Link.battery current voltage)
  range v := calling (.range v) (Link.range v)

@[simp] theorem runOn_calling (call : Rig.LinkCall) (x : Act σ α) (a : Attended O I σ) :
    (calling call x).runOn a =
      ((x.runOn a.world).1, ⟨(x.runOn a.world).2, a.deeds ++ [.link call]⟩) := rfl

theorem runOn_requested [Link σ] (a : Attended O I σ) :
    Link.requested.runOn a =
      match Link.requested.runOn a.world with
      | (.ok mask, w) => (.ok mask, ⟨w, a.deeds ++ [.link .requested, .answered mask]⟩)
      | (.error e, w) => (.error e, ⟨w, a.deeds ++ [.link .requested]⟩) := by
  change Attempt.runOn (calling .requested Link.requested >>= _) a = _
  rw [Attempt.runOn_bind, runOn_calling]
  rcases Link.requested.runOn a.world with ⟨e | mask, w⟩
  · rfl
  · simp only [Attempt.follow_ok, bind_pure_comp, Attempt.runOn_map, Attempt.runOn_modify,
      List.append_assoc]
    rfl

/-! ## What each phase puts on record -/

/-- What applying a mask takes: nothing, if it is applied already. -/
def drives (c : Controller O I) (m : LineMask) : List (Deed O I) :=
  if m = c.applied then [] else Line.all.map fun l => .drove (c.outputs.get l) (m.has l)

def senses (c : Controller O I) (highs : PerLine Bool) : List (Deed O I) :=
  Line.all.map fun l => .sensed (c.inputs.get l) (highs.get l)

theorem deeds_driveAll [OutputPin O σ] (pins : PerLine O) (m : LineMask) (a : Attended O I σ) :
    ((Controller.driveAll pins m).runOn a).2.deeds =
      a.deeds ++ Line.all.map fun l => .drove (pins.get l) (m.has l) := by
  unfold Controller.driveAll
  generalize Line.all = ls
  induction ls generalizing a with
  | nil => exact (List.append_nil _).symm
  | cons l ls ih =>
    rw [List.map_cons, List.append_cons]
    exact ih _

theorem deeds_setOutputs [OutputPin O σ] [Logger σ] (mask : UInt8)
    (d : Held (Controller O I) (Attended O I σ)) :
    ((Controller.setOutputs mask).runOn d).2.world.deeds =
      d.world.deeds ++ drives d.own (LineMask.ofByte mask) := by
  obtain ⟨c, a⟩ := d
  rw [Controller.runOn_setOutputs, drives]
  split
  · exact (List.append_nil _).symm
  · exact deeds_driveAll _ _ _

theorem readInputs_sensed [InputPin I σ] (d : Held (Controller O I) (Attended O I σ)) :
    ∃ highs : PerLine Bool, (Controller.readInputs.runOn d).1 = LineMask.ofFn highs.get ∧
      (Controller.readInputs.runOn d).2.own = d.own ∧
      (Controller.readInputs.runOn d).2.world.deeds = d.world.deeds ++ senses d.own highs := by
  obtain ⟨c, a⟩ := d
  refine ⟨((Controller.senseAll c.inputs).runOn a).1, rfl, rfl, ?_⟩
  -- four reads, each of which is noted with what it gave
  change (((a.deeds ++ [_]) ++ [_]) ++ [_]) ++ [_] = _
  simp only [List.append_assoc]
  rfl

theorem latestWidths_loaded [SharedCapture σ] [CriticalSection σ] (a : Attended O I σ) :
    ∃ p : Capture, (SharedCapture.latestWidths.runOn a).1 = p.widths ∧
      (SharedCapture.latestWidths.runOn a).2.deeds = a.deeds ++ [.loaded p] :=
  ⟨_, rfl, rfl⟩

/-- The record that an onlooker of the sampler keeps, at the end of an earlier one. -/
def resuming (ds : List (Deed O I)) (o : Observed σ) : Attended O I σ :=
  ⟨o.world, ds ++ o.calls.map .sampler⟩

theorem projects_recording (ds : List (Deed O I)) (record : Except SamplerCall α → Call)
    (x : Attempt SamplerCall σ α) :
    Attempt.Projects (resuming ds)
      (Observed.recording record x) (noting (fun r => .sampler (record r)) x) := by
  intro o
  rw [runOn_noting, Observed.runOn_recording]
  simp only [resuming, List.map_append, List.map_cons, List.map_nil, List.append_assoc]

/-- The calls of an acquisition are on record as they are made, and nothing else of it is. -/
theorem view_observed [Sampler σ] [Logger σ] [CriticalSection σ] (ds : List (Deed O I)) :
    View (resuming ds : Observed σ → Attended O I σ) where
  written := projects_recording ds .written _
  halt := projects_recording ds .halt _
  configure t := projects_recording ds (.configure t) _
  resume := projects_recording ds .resume _
  sampleAt _ _ := rfl
  log _ _ := rfl
  enter _ := rfl
  leave _ := rfl

theorem runOn_acquire [Sampler σ] [Logger σ] [CriticalSection σ] (p : Pipeline)
    (a : Attended O I σ) :
    Pipeline.acquire.runOn ⟨p, a⟩ =
      let r := Pipeline.acquire.runOn ⟨p, a.world⟩
      (r.1, ⟨r.2.own, ⟨r.2.world, a.deeds ++ (Pipeline.calls ⟨p, a.world⟩).map .sampler⟩⟩) := by
  obtain ⟨w, ds⟩ := a
  have h := (view_observed ds).acquire ⟨p, { world := w }⟩
  have ho := Pipeline.runOn_acquire_eq_observe ⟨p, w⟩
  simp only [Held.view, resuming, List.map_nil, List.append_nil] at h
  rw [ho, h]
  rfl

end Attended

namespace Block

open Attended

variable [OutputPin O σ] [InputPin I σ] [Sampler σ] [SharedCapture σ] [CriticalSection σ]
  [Logger σ] [Link σ]

/-- A tick with a record of its own. -/
def attend (h : Held (Block O I) σ) : Except Fatal Report × Held (Block O I) (Attended O I σ) :=
  tick.runOn ⟨h.own, { world := h.world }⟩

/-- What a tick asks of the world, in order. -/
def deeds (h : Held (Block O I) σ) : List (Deed O I) := (attend h).2.world.deeds

def links (h : Held (Block O I) σ) : List Rig.LinkCall := (deeds h).filterMap Deed.linkCall

def samplerCalls (h : Held (Block O I) σ) : List Call := (deeds h).filterMap Deed.samplerCall

/-- **The record is of the tick itself**: without it the outcome and the state are the same. -/
theorem runOn_tick_eq_attend (h : Held (Block O I) σ) :
    tick.runOn h = ((attend h).1, (attend h).2.view Attended.world) := by
  have link : LinkView (Attended.world : Attended O I σ → σ) inferInstance inferInstance := {
    requested := fun a => by
      rw [runOn_requested]
      rcases Link.requested.runOn a.world with ⟨e | mask, w⟩ <;> rfl
    inputs := fun _ _ => rfl
    widths := fun _ _ => rfl
    pitot := fun _ _ => rfl
    battery := fun _ _ _ => rfl
    range := fun _ _ => rfl }
  have pins : PinView O I (Attended.world : Attended O I σ → σ) :=
    ⟨fun _ _ _ => rfl, fun _ _ => rfl, fun _ _ => rfl⟩
  have capture : CaptureView (Attended.world : Attended O I σ → σ) :=
    ⟨fun _ => rfl, fun _ => rfl, fun _ => rfl⟩
  have sampler : View (Attended.world : Attended O I σ → σ) :=
    ⟨fun _ => rfl, fun _ => rfl, fun _ _ => rfl, fun _ => rfl, fun _ _ => rfl, fun _ _ => rfl,
      fun _ => rfl, fun _ => rfl⟩
  exact projects_tickOver link pins capture sampler ⟨h.own, { world := h.world }⟩

/-! ## The tick, stage by stage -/

/-- What a tick does with its readings. -/
def publishing (inputs : LineMask) (widths : PerLine UInt16) (a : Acquisition) :
    Act (Held (Block O I) σ) Report := do
  .onWorld (Link.pitot a.readings.pitot)
  .onWorld (Link.battery a.readings.batteryCurrent a.readings.batteryVoltage)
  .onWorld (Link.range a.readings.aux)
  return ⟨inputs, widths, a.readings, a.fault⟩

/-- What a tick does once the widths went out. -/
def acquiring (inputs : LineMask) (widths : PerLine UInt16) : Act (Held (Block O I) σ) Report := do
  publishing inputs widths (← onAnalog Pipeline.acquire)

/-- What a tick does once the inputs went out. -/
def loading (inputs : LineMask) : Act (Held (Block O I) σ) Report := do
  let widths ← ExceptT.lift SharedCapture.latestWidths
  .onWorld (Link.widths widths)
  acquiring inputs widths

def closing (r : Readings) : List (Deed O I) :=
  [.link (.pitot r.pitot), .link (.battery r.batteryCurrent r.batteryVoltage),
    .link (.range r.aux)]

omit [OutputPin O σ] [InputPin I σ] [Sampler σ] [SharedCapture σ] [CriticalSection σ] [Logger σ] in
/-- The readings go out in order, as far as the link takes them, and the block is not touched. -/
theorem publishing_closing (inputs : LineMask) (widths : PerLine UInt16) (x : Acquisition)
    (b : Block O I) (a : Attended O I σ) :
    let r := (publishing inputs widths x).runOn (⟨b, a⟩ : Held (Block O I) (Attended O I σ))
    r.2.own = b ∧ ∃ rest, rest <+: closing x.readings ∧ r.2.world.deeds = a.deeds ++ rest ∧
      ∀ rep, r.1 = .ok rep →
        rest = closing x.readings ∧ rep = ⟨inputs, widths, x.readings, x.fault⟩ := by
  simp only [publishing, Attempt.runOn_bind, Attempt.runOn_onWorld, Link.pitot, runOn_calling]
  rcases (Link.pitot x.readings.pitot).runOn a.world with ⟨e | _, w⟩
  · exact ⟨rfl, [_], ⟨_, rfl⟩, rfl, nofun⟩
  simp only [Attempt.follow_ok, Attempt.runOn_bind, Attempt.runOn_onWorld, Link.battery,
    runOn_calling]
  rcases (Link.battery x.readings.batteryCurrent x.readings.batteryVoltage).runOn w with ⟨e | _, w₁⟩
  · exact ⟨rfl, [_, _], ⟨_, rfl⟩, List.append_assoc .., nofun⟩
  simp only [Attempt.follow_ok, Attempt.runOn_bind, Attempt.runOn_onWorld, Link.range,
    runOn_calling]
  rcases (Link.range x.readings.aux).runOn w₁ with ⟨e | _, w₂⟩
  · exact ⟨rfl, [_, _, _], ⟨_, rfl⟩, by simp, nofun⟩
  · refine ⟨rfl, closing x.readings, List.prefix_rfl, by simp [closing], fun rep hr => ⟨rfl, ?_⟩⟩
    cases hr
    rfl

/-- What is left of a tick that came as far as its acquisition. -/
structure Ended (p : Held Pipeline σ) (b : Block O I) (ds : List (Deed O I)) (inputs : LineMask)
    (widths : PerLine UInt16) (r : Except Fatal Report × Held (Block O I) (Attended O I σ)) :
    Prop where
  own : r.2.own = { b with analog := (Pipeline.acquire.runOn p).2.own }
  /-- An acquisition that fails ends the tick, with nothing more asked. -/
  failed : ∀ e, (Pipeline.acquire.runOn p).1 = .error e →
    r.1 = .error e ∧ r.2.world.deeds = ds ++ (Pipeline.calls p).map .sampler
  /-- After one that returns the readings go out. -/
  acquired : ∀ x, (Pipeline.acquire.runOn p).1 = .ok x → ∃ rest, rest <+: closing x.readings ∧
    r.2.world.deeds = ds ++ (Pipeline.calls p).map .sampler ++ rest ∧
    ∀ rep, r.1 = .ok rep → rest = closing x.readings ∧ rep = ⟨inputs, widths, x.readings, x.fault⟩

omit [OutputPin O σ] [InputPin I σ] [SharedCapture σ] in
theorem acquiring_ended (inputs : LineMask) (widths : PerLine UInt16) (b : Block O I)
    (a : Attended O I σ) :
    Ended ⟨b.analog, a.world⟩ b a.deeds inputs widths ((acquiring inputs widths).runOn ⟨b, a⟩) := by
  simp only [acquiring, Attempt.runOn_bind, onAnalog, Attempt.runOn_onPart, Attended.runOn_acquire]
  generalize hd : a.deeds ++ (Pipeline.calls ⟨b.analog, a.world⟩).map .sampler = ds
  rcases hr : Pipeline.acquire.runOn ⟨b.analog, a.world⟩ with ⟨e | x, q, w⟩
  · refine ⟨by rw [hr]; rfl, fun e' he => ?_, fun x hx => ?_⟩
    · rw [hr] at he
      cases he
      exact ⟨rfl, hd.symm⟩
    · rw [hr] at hx
      cases hx
  · obtain ⟨ho, rest, hp, hds, hrep⟩ := publishing_closing inputs widths x
      ({ b with analog := q } : Block O I) (⟨w, ds⟩ : Attended O I σ)
    refine ⟨by rw [hr]; exact ho, fun e' he => ?_, fun x' hx => ?_⟩
    · rw [hr] at he
      cases he
    · rw [hr] at hx
      cases hx
      exact ⟨rest, hp, hd ▸ hds, hrep⟩

omit [OutputPin O σ] [InputPin I σ] in
theorem loading_cases (inputs : LineMask) (b : Block O I) (a : Attended O I σ) :
    let r := (loading inputs).runOn (⟨b, a⟩ : Held (Block O I) (Attended O I σ))
    ∃ p : Capture, (∃ e, r.1 = .error e ∧
        r.2.world.deeds = a.deeds ++ [.loaded p, .link (.widths p.widths)]) ∨
      ∃ w, Ended ⟨b.analog, w⟩ b (a.deeds ++ [.loaded p, .link (.widths p.widths)]) inputs p.widths
        r := by
  obtain ⟨p, hp, hds⟩ := latestWidths_loaded a
  refine ⟨p, ?_⟩
  simp only [loading, Attempt.runOn_bind, Attempt.runOn_lift, SharedCapture.latestWidths_held,
    Step.runOn_onWorld, Attempt.follow_ok, Attempt.runOn_onWorld, Link.widths, runOn_calling]
  rw [hp, hds, List.append_assoc, List.singleton_append]
  rcases (Link.widths p.widths).runOn _ with ⟨e | _, w⟩
  · exact .inl ⟨e, rfl, rfl⟩
  · exact .inr ⟨w, acquiring_ended inputs p.widths b ⟨w, _⟩⟩

def applying (b : Block O I) (mask : UInt8) : Block O I :=
  { b with digital := { b.digital with applied := .ofByte mask } }

/-- What a tick asks up to where its inputs are out. -/
def asking (c : Controller O I) (mask : UInt8) (highs : PerLine Bool) : List (Deed O I) :=
  [.link .requested, .answered mask] ++ drives c (.ofByte mask) ++ senses c highs ++
    [.link (.inputs (LineMask.ofFn highs.get).toByte)]

/-- What a tick asks before it acquires. -/
def opening (c : Controller O I) (mask : UInt8) (highs : PerLine Bool) (p : Capture) :
    List (Deed O I) :=
  asking c mask highs ++ [.loaded p, .link (.widths p.widths)]

/-- The controller and the world, with its record, when the inputs are read. -/
def reading (h : Held (Block O I) σ) (mask : UInt8) : Held (Controller O I) (Attended O I σ) :=
  ((Controller.setOutputs mask).runOn
    ⟨h.own.digital, (Link.requested.runOn ({ world := h.world } : Attended O I σ)).2⟩).2

/-- The outputs that the link asked for are applied, and then the inputs are read. -/
structure Opened (h : Held (Block O I) σ) (mask : UInt8) (highs : PerLine Bool) : Prop where
  answered : (Link.requested.runOn h.world).1 = .ok mask
  applied : (reading h mask).own = { h.own.digital with applied := .ofByte mask }
  driven : (reading h mask).world.deeds =
    [.link .requested, .answered mask] ++ drives h.own.digital (.ofByte mask)
  read : (Controller.readInputs.runOn (reading h mask)).1 = .ofFn highs.get
  sensed : (Controller.readInputs.runOn (reading h mask)).2.world.deeds =
    (reading h mask).world.deeds ++ senses h.own.digital highs

omit [Sampler σ] [SharedCapture σ] [CriticalSection σ] in
theorem exists_opened {h : Held (Block O I) σ} {mask : UInt8}
    (hq : (Link.requested.runOn h.world).1 = .ok mask) : ∃ highs, Opened h mask highs := by
  have happ : (reading h mask).own = { h.own.digital with applied := .ofByte mask } := by
    rw [reading, Controller.applied_setOutputs]
  obtain ⟨highs, hread, -, hsensed⟩ := readInputs_sensed (reading h mask)
  refine ⟨highs, hq, happ, ?_, hread, by rw [hsensed, happ]; rfl⟩
  rw [reading, deeds_setOutputs, runOn_requested]
  rcases hr : Link.requested.runOn h.world with ⟨e | m, w⟩ <;> rw [hr] at hq <;> cases hq
  rfl

/-- Once the link has answered, a tick goes on with the inputs that it read. -/
theorem attend_opened {h : Held (Block O I) σ} {mask : UInt8} {highs : PerLine Bool}
    (ho : Opened h mask highs) :
    ∃ (sent : Except Fatal Unit) (w : σ),
      attend h = Attempt.follow (fun () => loading (.ofFn highs.get))
        (sent, ⟨h.own.applying mask, ⟨w, asking h.own.digital mask highs⟩⟩) := by
  have hreq := runOn_requested ({ world := h.world } : Attended O I σ)
  have hq := ho.answered
  rcases hr : Link.requested.runOn h.world with ⟨e | m, w⟩ <;> rw [hr] at hq hreq <;> cases hq
  have hset : ((Controller.setOutputs mask).runOn
      ⟨h.own.digital, ⟨w, [.link .requested, .answered mask]⟩⟩).2 = reading h mask := by
    rw [reading, hreq]
    rfl
  have hown : (Controller.readInputs.runOn (reading h mask)).2.own =
      (h.own.applying mask).digital := ho.applied
  have hread := ho.read
  have hsensed := ho.sensed
  rw [ho.driven] at hsensed
  let sent := (Link.inputs (LineMask.ofFn highs.get).toByte).runOn
    (Controller.readInputs.runOn (reading h mask)).2.world.world
  refine ⟨sent.1, sent.2, ?_⟩
  simp only [attend, tick, Attempt.runOn_bind, Attempt.runOn_onWorld, hreq, Attempt.follow_ok,
    onDigital, Attempt.runOn_lift, Step.runOn_onPart, List.nil_append, hset, hread, hown,
    Link.inputs, runOn_calling, hsensed]
  rfl

/-- How far a tick comes: no further than to the acquisition, or through it. -/
inductive Course (h : Held (Block O I) σ) : Prop
  | unopened (e : Fatal) (failed : (attend h).1 = .error e) (mask : UInt8) (highs : PerLine Bool)
      (p : Capture) (deeds : deeds h <+: opening h.own.digital mask highs p)
  | opened (mask : UInt8) (highs : PerLine Bool) (p : Capture) (w : σ)
      (opened : Opened h mask highs)
      (ended : Ended ⟨h.own.analog, w⟩ (h.own.applying mask) (opening h.own.digital mask highs p)
        (.ofFn highs.get) p.widths (attend h))

/-- **Every tick takes one of these courses**, whatever happens inside the calls of its link. -/
theorem course (h : Held (Block O I) σ) : Course h := by
  rcases hq : (Link.requested.runOn h.world).1 with e | mask
  · have ha : (attend h).1 = .error e ∧ deeds h = [.link .requested] := by
      have hreq := runOn_requested ({ world := h.world } : Attended O I σ)
      rcases hr : Link.requested.runOn h.world with ⟨_ | _, w⟩ <;> rw [hr] at hq hreq <;> cases hq
      simp only [deeds, attend, tick, Attempt.runOn_bind, Attempt.runOn_onWorld, hreq,
        Attempt.follow_error, List.nil_append, and_self]
    exact .unopened e ha.1 0 (.replicate false) (.start .reference) (ha.2 ▸ ⟨_, rfl⟩)
  obtain ⟨highs, ho⟩ := exists_opened hq
  obtain ⟨e | _, w, ha⟩ := attend_opened ho
  · refine .unopened e (by rw [ha]; rfl) mask highs (.start .reference) ?_
    rw [deeds, ha]
    exact List.prefix_append _ _
  rw [Attempt.follow_ok] at ha
  obtain ⟨p, ⟨e, he, hds⟩ | ⟨w', hend⟩⟩ := loading_cases (.ofFn highs.get) (h.own.applying mask)
    ⟨w, asking h.own.digital mask highs⟩ <;> rw [← ha] at *
  · refine .unopened e he mask highs p ?_
    rw [deeds, hds]
    exact List.prefix_rfl
  · exact .opened mask highs p w' ho hend

/-! ## What a tick publishes -/

omit [OutputPin O σ] [InputPin I σ] [Sampler σ] [SharedCapture σ] [CriticalSection σ] [Logger σ]
  [Link σ] in
/-- What the two ends of a tick hold: three calls of the link each, and of the other calls none. -/
theorem filterMap_opening (c : Controller O I) (mask : UInt8) (highs : PerLine Bool) (p : Capture) :
    (opening c mask highs p).filterMap Deed.linkCall =
        [.requested, .inputs (LineMask.ofFn highs.get).toByte, .widths p.widths] ∧
      (opening c mask highs p).filterMap Deed.samplerCall = [] ∧
      ∀ p', .stored p' ∉ opening c mask highs p := by
  have hs (m : LineMask) : (drives c m).filterMap Deed.linkCall = [] ∧
      (drives c m).filterMap Deed.samplerCall = [] ∧ ∀ p', .stored p' ∉ drives c m := by
    unfold drives
    split <;> simp [Line.all, Deed.linkCall, Deed.samplerCall]
  obtain ⟨h₁, h₂, h₃⟩ := hs (.ofByte mask)
  refine ⟨?_, ?_, by simp [opening, asking, senses, Line.all, h₃]⟩
  · simp only [opening, asking, List.filterMap_append, h₁]
    rfl
  · simp only [opening, asking, List.filterMap_append, h₂]
    rfl

omit [OutputPin O σ] [InputPin I σ] [Sampler σ] [SharedCapture σ] [CriticalSection σ] [Logger σ]
  [Link σ] in
/-- The record of a tick that came as far as its acquisition, taken apart. -/
theorem filterMap_record {c : Controller O I} {mask : UInt8} {highs : PerLine Bool} {p : Capture}
    {cs : List Call} {r : Readings} {ds rest : List (Deed O I)} (hrest : rest <+: closing r)
    (hds : ds = opening c mask highs p ++ cs.map .sampler ++ rest) :
    ds.filterMap Deed.linkCall =
        [.requested, .inputs (LineMask.ofFn highs.get).toByte, .widths p.widths] ++
          rest.filterMap Deed.linkCall ∧
      ds.filterMap Deed.samplerCall = cs ∧ ∀ p', .stored p' ∉ ds := by
  obtain ⟨hl, hs, hu⟩ := filterMap_opening c mask highs p
  have hnil : rest.filterMap Deed.samplerCall = [] :=
    List.sublist_nil.1 (hrest.sublist.filterMap Deed.samplerCall)
  have hstored (p') : .stored p' ∉ rest := fun hm => by simpa [closing] using hrest.subset hm
  subst hds
  refine ⟨?_, ?_, fun p' => by simp [hu, hstored]⟩
  · rw [List.filterMap_append, List.filterMap_append, hl, Deed.filterMap_linkCall_sampler,
      List.append_nil]
  · rw [List.filterMap_append, List.filterMap_append, hs, hnil,
      Deed.filterMap_samplerCall_sampler, List.nil_append, List.append_nil]

omit [OutputPin O σ] [InputPin I σ] [SharedCapture σ] [Link σ] in
/-- A call of the sampler that fails ends the acquisition, so one that returned has seen none. -/
theorem failure_eq_none {p : Held Pipeline σ} {x : Acquisition}
    (hx : (Pipeline.acquire.runOn p).1 = .ok x) : ∀ c ∈ Pipeline.calls p, c.failure = none := by
  rw [← List.findSome?_eq_none_iff]
  cases he : (Pipeline.calls p).findSome? Call.failure with
  | none => rfl
  | some e =>
    rw [Pipeline.fst_of_failure p he] at hx
    cases hx

/-- A tick that returned has published what it reports. -/
structure Published (h : Held (Block O I) σ) (r : Report) : Prop where
  /-- Each call of the link was made once, in this order and with the values of the report. -/
  links : links h = [.requested, .inputs r.inputs.toByte, .widths r.widths, .pitot r.analog.pitot,
    .battery r.analog.batteryCurrent r.analog.batteryVoltage, .range r.analog.aux]
  /-- The inputs were read with the requested outputs applied, and the rest came after. -/
  opened : ∃ mask highs p, Opened h mask highs ∧ r.inputs = .ofFn highs.get ∧ r.widths = p.widths ∧
    (tick.runOn h).2.own.digital = (h.own.applying mask).digital ∧
    deeds h =
      opening h.own.digital mask highs p ++ (samplerCalls h).map .sampler ++ closing r.analog
  /-- No call of the sampler failed. -/
  answered : ∀ c ∈ samplerCalls h, c.failure = none

/-- A tick that a call of the sampler has ended. -/
structure Aborted (h : Held (Block O I) σ) (e : SamplerCall) : Prop where
  failed : (tick.runOn h).1 = .error (.sampler e)
  /-- The inputs and the widths are out, the requested outputs are applied, and nothing was asked
  for after the sampler. -/
  opened : ∃ mask highs p, Opened h mask highs ∧
    links h = [.requested, .inputs (LineMask.ofFn highs.get).toByte, .widths p.widths] ∧
    (tick.runOn h).2.own.digital = (h.own.applying mask).digital ∧
    deeds h = opening h.own.digital mask highs p ++ (samplerCalls h).map .sampler
  averages : (tick.runOn h).2.own.analog.averages = h.own.analog.averages

/-- How a tick from a state publishes. -/
structure Faithful (h : Held (Block O I) σ) : Prop where
  published : ∀ r, (tick.runOn h).1 = .ok r → Published h r
  aborted : ∀ e, (samplerCalls h).findSome? Call.failure = some e → Aborted h e
  /-- On no exit has the tick itself changed the shared capture. -/
  unstored : ∀ p, .stored p ∉ deeds h

section

variable {h : Held (Block O I) σ} {mask : UInt8} {highs : PerLine Bool} {p : Capture} {w : σ}
  (ho : Opened h mask highs)
  (hend : Ended ⟨h.own.analog, w⟩ (h.own.applying mask) (opening h.own.digital mask highs p)
    (.ofFn highs.get) p.widths (attend h))

include ho hend

theorem faithful_of_failed {e : Fatal}
    (he : (Pipeline.acquire.runOn ⟨h.own.analog, w⟩).1 = .error e) : Faithful h := by
  have htick := runOn_tick_eq_attend h
  have hown : (tick.runOn h).2.own = (attend h).2.own := by rw [htick]; rfl
  rw [hend.own] at hown
  obtain ⟨hfst, hds⟩ := hend.failed e he
  change deeds h = _ at hds
  have hnil : ([] : List (Deed O I)) <+: closing (.replicate 0) := List.nil_prefix
  obtain ⟨hlinks, hcalls, hu⟩ := filterMap_record hnil (hds.trans (List.append_nil _).symm)
  refine ⟨fun r hr => ?_, fun e' he' => ?_, hu⟩
  · rw [htick, hfst] at hr
    cases hr
  -- the call that failed is what ended the acquisition
  · rw [samplerCalls, hcalls] at he'
    have hfail := Pipeline.fst_of_failure _ he'
    obtain rfl : e = .sampler e' := by simpa [he] using hfail
    refine ⟨by rw [htick, hfst], ⟨mask, highs, p, ho, hlinks, by rw [hown], ?_⟩, ?_⟩
    · rw [samplerCalls, hcalls, hds]
    · rw [hown]
      exact Pipeline.averages_of_failure ⟨h.own.analog, w⟩ he (by simp)

theorem faithful_of_acquired {x : Acquisition}
    (hx : (Pipeline.acquire.runOn ⟨h.own.analog, w⟩).1 = .ok x) : Faithful h := by
  have htick := runOn_tick_eq_attend h
  have hown : (tick.runOn h).2.own = (attend h).2.own := by rw [htick]; rfl
  rw [hend.own] at hown
  obtain ⟨rest, hrest, hds, hrep⟩ := hend.acquired x hx
  change deeds h = _ at hds
  obtain ⟨hlinks, hcalls, hu⟩ := filterMap_record hrest hds
  have hnone := failure_eq_none hx
  refine ⟨fun r hr => ?_, fun e' he => ?_, hu⟩
  · rw [htick] at hr
    obtain ⟨rfl, rfl⟩ := hrep r hr
    refine ⟨hlinks, ⟨mask, highs, p, ho, rfl, rfl, by rw [hown], ?_⟩, ?_⟩
    · rw [samplerCalls, hcalls, hds]
    · rw [samplerCalls, hcalls]
      exact hnone
  · rw [samplerCalls, hcalls, List.findSome?_eq_none_iff.2 hnone] at he
    cases he

end

/-- **A tick publishes what it reports**, from any state, over any sampler, and whatever happens to
the world inside the calls of the link. -/
theorem tick_faithful (h : Held (Block O I) σ) : Faithful h := by
  cases course h with
  | unopened e failed mask highs p hds =>
    obtain ⟨hl, hs, hu⟩ := filterMap_opening h.own.digital mask highs p
    have hcalls : samplerCalls h = [] :=
      List.sublist_nil.1 (hs ▸ hds.sublist.filterMap Deed.samplerCall)
    refine ⟨fun r hr => ?_, fun e' he => ?_, fun p' hp => hu p' (hds.subset hp)⟩
    · rw [runOn_tick_eq_attend, failed] at hr
      cases hr
    · rw [hcalls] at he
      cases he
  | opened mask highs p w ho hend =>
    cases hx : (Pipeline.acquire.runOn ⟨h.own.analog, w⟩).1 with
    | error e => exact faithful_of_failed ho hend hx
    | ok x => exact faithful_of_acquired ho hend hx

end Block

end SensorBoard
