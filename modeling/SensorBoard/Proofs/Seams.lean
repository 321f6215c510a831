import SensorBoard.Proofs.Scene

/-!
# The seams of a tick

Inside each call of the link anything may happen to the world: samples come, inputs change, pulses
end, another output mask is asked for. Each of these must be seen by this tick or by the next one,
and by one of them only. What decides is which part of the world an event reaches, and whether the
tick has read that part by then: an event after the read commutes with the rest of the tick, and one
before it with all that came until then.

* `Gaps`: what happens inside the calls of a link, as maps of the world, and a tick between them in
  closed form (`Block.runOn_tickOver_gaps`).
* `Block.settled_inputs`, `Block.settled_widths`, `Block.preset_inputs`, `Block.preset_widths`: what
  commutes with the rest of a tick happens after it, and what commutes with its start before it.
* `Rig.tick_seamless`: **what happens inside a tick is neither lost nor torn**.
-/

namespace SensorBoard

variable {ε σ τ α β O I : Type}

/-- The result of an operation that returns, with what it leaves. -/
def returned : Except ε α × σ → Option (α × σ)
  | (.ok a, s) => some (a, s)
  | (.error _, _) => none

/-- What happens to a world inside the calls of a link, none of which fails. -/
structure Gaps (σ : Type) where
  requested : σ → σ := id
  inputs : σ → σ := id
  widths : σ → σ := id
  pitot : σ → σ := id
  battery : σ → σ := id
  range : σ → σ := id

/-- The link with these gaps, which asks for the mask that the world has by then. -/
@[reducible] def Gaps.link (g : Gaps σ) (mask : σ → UInt8) : Link σ where
  requested := do
    modify g.requested
    return mask (← get)
  inputs _ := modify g.inputs
  widths _ := modify g.widths
  pitot _ := modify g.pitot
  battery _ _ := modify g.battery
  range _ := modify g.range

namespace Gaps

variable (g : Gaps σ) (mask : σ → UInt8) (w : σ)

theorem runOn_requested :
    (g.link mask).requested.runOn w = (.ok (mask (g.requested w)), g.requested w) := rfl

theorem runOn_inputs (levels : UInt8) :
    ((g.link mask).inputs levels).runOn w = (.ok (), g.inputs w) := rfl

theorem runOn_widths (v : PerLine UInt16) :
    ((g.link mask).widths v).runOn w = (.ok (), g.widths w) := rfl

theorem runOn_pitot (v : UInt16) : ((g.link mask).pitot v).runOn w = (.ok (), g.pitot w) := rfl

theorem runOn_battery (current voltage : UInt16) :
    ((g.link mask).battery current voltage).runOn w = (.ok (), g.battery w) := rfl

theorem runOn_range (v : UInt16) : ((g.link mask).range v).runOn w = (.ok (), g.range w) := rfl

end Gaps

namespace Block

variable [OutputPin O σ] [InputPin I σ] [Sampler σ] [SharedCapture σ] [CriticalSection σ]
  [Logger σ] (mask : σ → UInt8) (h : Held (Block O I) σ) {f : σ → σ}

/-- **A tick between the gaps of its link**, in closed form. -/
theorem runOn_tickOver_gaps (g : Gaps σ) :
    (tickOver (g.link mask)).runOn h =
      let d := ((Controller.setOutputs (mask (g.requested h.world))).runOn
        ⟨h.own.digital, g.requested h.world⟩).2
      let s := Controller.readInputs.runOn d
      let l := SharedCapture.latestWidths.runOn (g.inputs s.2.world)
      let a := Pipeline.acquire.runOn ⟨h.own.analog, g.widths l.2⟩
      match a.1 with
      | .ok x => (.ok ⟨s.1, l.1, x.readings, x.fault⟩,
          ⟨⟨s.2.own, a.2.own⟩, g.range (g.battery (g.pitot a.2.world))⟩)
      | .error e => (.error e, ⟨⟨s.2.own, a.2.own⟩, a.2.world⟩) := by
  simp only [tickOver, tick, Attempt.runOn_bind, Attempt.runOn_onWorld, Gaps.runOn_requested,
    Gaps.runOn_inputs, Gaps.runOn_widths, Attempt.follow_ok, onDigital, onAnalog,
    Attempt.runOn_lift, Step.runOn_onPart, Attempt.runOn_onPart, SharedCapture.latestWidths_held,
    Step.runOn_onWorld]
  rcases Pipeline.acquire.runOn _ with ⟨e | x, a⟩
  · rfl
  · simp only [Attempt.follow_ok, Attempt.runOn_bind, Attempt.runOn_onWorld, Gaps.runOn_pitot,
      Gaps.runOn_battery, Gaps.runOn_range, Attempt.runOn_pure]

/-- The report of a tick with the given gaps and what it leaves, if it returns. -/
def outcome (g : Gaps σ) : Option (Report × Held (Block O I) σ) :=
  returned ((tickOver (g.link mask)).runOn h)

/-- What happens once the acquisition is over happens after the tick. -/
theorem settled_after (f₁ f₂ f₃ : σ → σ) :
    outcome mask h { pitot := f₁, battery := f₂, range := f₃ } =
      (outcome mask h {}).map (Prod.map id (Held.view (f₃ ∘ f₂ ∘ f₁))) := by
  simp only [outcome, runOn_tickOver_gaps, id]
  rcases Pipeline.acquire.runOn _ with ⟨e | x, a⟩ <;> rfl

theorem preset_requested : outcome mask h { requested := f } = outcome mask (h.view f) {} := by
  simp only [outcome, runOn_tickOver_gaps, id, Held.view]

/-- What the acquisition does not see, it leaves for later. -/
theorem settled_widths (sampler : View f) :
    outcome mask h { widths := f } = (outcome mask h {}).map (Prod.map id (Held.view f)) := by
  simp only [outcome, runOn_tickOver_gaps, id]
  generalize (SharedCapture.latestWidths.runOn _ : PerLine UInt16 × σ) = l
  have hacq := sampler.acquire ⟨h.own.analog, l.2⟩
  rw [Held.view] at hacq
  rw [hacq]
  rcases Pipeline.acquire.runOn _ with ⟨e | x, a⟩ <;> rfl

/-- What neither the capture nor the acquisition sees, they leave for later. -/
theorem settled_inputs (capture : CaptureView f) (sampler : View f) :
    outcome mask h { inputs := f } = (outcome mask h {}).map (Prod.map id (Held.view f)) := by
  rw [← settled_widths mask h sampler]
  simp only [outcome, runOn_tickOver_gaps, id, capture.latestWidths _]

/-- What neither the answer of the link nor the pins see, might as well have happened before. -/
theorem preset_inputs (hmask : ∀ w, mask (f w) = mask w) (pins : PinView O I f) :
    outcome mask h { inputs := f } = outcome mask (h.view f) {} := by
  have hset := pins.setOutputs (mask h.world) ⟨h.own.digital, h.world⟩
  have hread := pins.readInputs
    ((Controller.setOutputs (mask h.world)).runOn ⟨h.own.digital, h.world⟩).2
  simp only [Held.view] at hset hread
  simp only [outcome, runOn_tickOver_gaps, id, Held.view, hmask, hset, hread]

/-- What is not seen up to the acquisition might as well have happened before. -/
theorem preset_widths (hmask : ∀ w, mask (f w) = mask w) (pins : PinView O I f)
    (capture : CaptureView f) :
    outcome mask h { widths := f } = outcome mask (h.view f) {} := by
  rw [← preset_inputs mask h hmask pins]
  simp only [outcome, runOn_tickOver_gaps, id, capture.latestWidths _]

end Block

namespace Rig

open Block

/-! ## What leaves a part of the scene alone -/

/-- A scene with one part taken from another. -/
def Part.copy (s : Scene) : Part → Scene → Scene
  | .digital, t => { t with pads := s.pads }
  | .capture, t => { t with capture := s.capture }
  | .analog, t => { t with engine := s.engine }

/-- A map of scenes neither changes a part nor looks at it. -/
def Spares (g : Scene → Scene) (part : Part) : Prop :=
  ∀ s t, g (part.copy s t) = part.copy s (g t)

namespace Spares

variable {g : Scene → Scene} {as : List Action} {part : Part}

theorem after {a : Action} (h : a.part ≠ part) : Spares (fun s => s.after a) part := by
  intro s t
  simp only [Scene.after, Scene.runOn_act]
  cases hp : a.part <;> cases part <;> first | rfl | exact absurd hp h

/-- Actions that reach other parts spare this one. -/
theorem foldl (h : ∀ a ∈ as, a.part ≠ part) : Spares (fun s => as.foldl Scene.after s) part := by
  induction as with
  | nil => exact fun _ _ => rfl
  | cons a as ih =>
    intro s t
    have ha := after (h a List.mem_cons_self) s t
    have hs := ih (fun b hb => h b (List.mem_cons_of_mem a hb)) s (t.after a)
    simp only [List.foldl_cons] at ha hs ⊢
    rw [ha, hs]

theorem pads_eq (hg : Spares g .digital) (s : Scene) : (g s).pads = s.pads :=
  have h := congrArg Scene.pads (hg s s)
  h

theorem capture_eq (hg : Spares g .capture) (s : Scene) : (g s).capture = s.capture :=
  have h := congrArg Scene.capture (hg s s)
  h

theorem engine_eq (hg : Spares g .analog) (s : Scene) : (g s).engine = s.engine :=
  have h := congrArg Scene.engine (hg s s)
  h

theorem onPads (hg : Spares g .digital) (x : Step Rig α) :
    Step.Projects g (Scene.onPads x) (Scene.onPads x) := by
  intro s
  have h := hg ⟨(x.runOn s.pads.rig).2.pads, s.engine, s.capture⟩ s
  simp only [Scene.runOn_onPads, hg.pads_eq, Part.copy] at h ⊢
  rw [h]

theorem onCapture (hg : Spares g .capture) (x : Step Rig α) :
    Step.Projects g (Scene.onCapture x) (Scene.onCapture x) := by
  intro s
  have h := hg ⟨s.pads, s.engine, (x.runOn (captureRig s.capture)).2.capture⟩ s
  simp only [Scene.runOn_onCapture, hg.capture_eq, Part.copy] at h ⊢
  rw [h]

theorem onEngine (hg : Spares g .analog) (x : Step Rig α) :
    Step.Projects g (Scene.onEngine x) (Scene.onEngine x) := by
  intro s
  have h := hg ⟨s.pads, (x.runOn s.engine.rig).2.engine, s.capture⟩ s
  simp only [Scene.runOn_onEngine, hg.engine_eq, Part.copy] at h ⊢
  rw [h]

theorem calling (hg : Spares g .analog) (x : Attempt SamplerCall Rig α) :
    Attempt.Projects g (Scene.calling x) (Scene.calling x) :=
  hg.onEngine x.run

theorem pinView (hg : Spares g .digital) : PinView Line Line g where
  drive _ _ := hg.onPads _
  isHigh _ := hg.onPads _
  log _ _ := rfl

theorem captureView (hg : Spares g .capture) : CaptureView g where
  load := hg.onCapture _
  enter _ := rfl
  leave _ := rfl

theorem view (hg : Spares g .analog) : View g where
  written := hg.calling _
  halt := hg.calling _
  configure _ := hg.calling _
  resume := hg.calling _
  sampleAt _ := hg.onEngine _
  log _ _ := rfl
  enter _ := rfl
  leave _ := rfl

end Spares

/-! ## The seams of the rig's tick -/

/-- What happens inside the calls of the link, on the scene. -/
def During.gaps (d : During) : Gaps Scene where
  requested s := d.requested.foldl Scene.after s
  inputs s := d.inputs.foldl Scene.after s
  widths s := d.widths.foldl Scene.after s
  pitot s := d.pitot.foldl Scene.after s
  battery s := d.battery.foldl Scene.after s
  range s := d.range.foldl Scene.after s

/-- Nothing that happens inside the calls of the link can fail. -/
structure During.Harmless (d : During) : Prop where
  requested : ∀ a ∈ d.requested, a.Harmless
  inputs : ∀ a ∈ d.inputs, a.Harmless
  widths : ∀ a ∈ d.widths, a.Harmless
  pitot : ∀ a ∈ d.pitot, a.Harmless
  battery : ∀ a ∈ d.battery, a.Harmless
  range : ∀ a ∈ d.range, a.Harmless

def asked (s : Scene) : UInt8 := s.pads.request

/-- The report of an operation that returns, with the state that it leaves: the board's own, and the
scene. -/
def ending (x : Act (Held (Block Line Line) Rig) Report) (h : Held (Block Line Line) Rig) :
    Option (Report × Held (Block Line Line) Scene) :=
  (returned (x.runOn h)).map (Prod.map id (Held.view scene))

theorem runOn_playing {inside : During → List Action} {d : During}
    (hd : ∀ a ∈ inside d, a.Harmless) (s : Scene) :
    (playing inside).runOn ⟨d, s⟩ = (.ok (), ⟨d, (inside d).foldl Scene.after s⟩) := by
  simp only [playing, Attempt.runOn_bind, Attempt.runOn_get, Attempt.follow_ok]
  exact runOn_acts_beside hd d s

/-- The link of the rig, whose calls play what is to happen, is one with gaps. -/
theorem linkView_gaps (d : During) (hd : d.Harmless) :
    LinkView (fun s : Scene => (⟨d, s⟩ : Held During Scene)) (d.gaps.link asked) inferInstance where
  requested s := by
    change Attempt.runOn (playing During.requested >>= _) _ = _
    rw [Attempt.runOn_bind, runOn_playing hd.requested]
    rfl
  inputs _ s := runOn_playing hd.inputs s
  widths _ s := runOn_playing hd.widths s
  pitot _ s := runOn_playing hd.pitot s
  battery _ _ s := runOn_playing hd.battery s
  range _ s := runOn_playing hd.range s

theorem returned_eq {d : During} {x : Except Fatal Report × Held (Block Line Line) Rig}
    {y : Except Fatal Report × Held (Block Line Line) Scene}
    (hxy : (x.1, x.2.view staged) = (y.1, y.2.view fun s => (⟨d, s⟩ : Held During Scene))) :
    (returned x).map (Prod.map id (Held.view scene)) = returned y := by
  obtain ⟨r, h₁⟩ := x
  obtain ⟨r', h₂⟩ := y
  obtain ⟨hr, hview⟩ := Prod.mk.inj hxy
  have hown : h₁.own = h₂.own := congrArg Held.own hview
  have hscene : h₁.world.scene = h₂.world := congrArg (fun h => h.world.world) hview
  dsimp only at hr
  subst hr
  cases r with
  | error e => rfl
  | ok r => simp only [returned, Option.map_some, Prod.map, id, Held.view, hown, hscene]

/-- **A tick of the rig is a tick with gaps on the scene.** -/
theorem ending_tick (d : During) (hd : d.Harmless) (h : Held (Block Line Line) Rig) :
    ending (tick d) h = outcome asked (h.view scene) d.gaps := by
  have hpins : PinView Line Line fun s : Scene => (⟨d, s⟩ : Held During Scene) :=
    ⟨fun _ _ _ => rfl, fun _ _ => rfl, fun _ _ => rfl⟩
  have hcapture : CaptureView fun s : Scene => (⟨d, s⟩ : Held During Scene) :=
    ⟨fun _ => rfl, fun _ => rfl, fun _ => rfl⟩
  have hsampler : View fun s : Scene => (⟨d, s⟩ : Held During Scene) :=
    ⟨fun _ => rfl, fun _ => rfl, fun _ _ => rfl, fun _ => rfl, fun _ _ => rfl, fun _ _ => rfl,
      fun _ => rfl, fun _ => rfl⟩
  have hgaps := projects_tickOver (linkView_gaps d hd) hpins hcapture hsampler (h.view scene)
  have hrig := projects_tick ⟨h.own, { h.world with during := d }⟩
  have htick : (tick d).runOn h = Block.tick.runOn ⟨h.own, { h.world with during := d }⟩ := by
    simp only [tick, Attempt.runOn_bind, Attempt.runOn_onWorld, Attempt.runOn_modify,
      Attempt.follow_ok]
  rw [ending, outcome, htick]
  -- the same run of the scene, seen from the rig and from the link with gaps
  exact returned_eq (hrig.symm.trans hgaps)

variable {as : List Action} (hs : ∀ a ∈ as, a.Harmless) (h : Held (Block Line Line) Rig)

def tickThen (as : List Action) : Act (Held (Block Line Line) Rig) Report := do
  let r ← tick {}
  .onWorld (as.forM Action.perform)
  return r

def thenTick (as : List Action) : Act (Held (Block Line Line) Rig) Report := do
  .onWorld (as.forM Action.perform)
  tick {}

theorem During.harmless_empty : ({} : During).Harmless := ⟨nofun, nofun, nofun, nofun, nofun, nofun⟩

include hs

theorem ending_tickThen :
    ending (tickThen as) h =
      (outcome asked (h.view scene) {}).map (Prod.map id (Held.view (as.foldl Scene.after ·))) := by
  have hquiet := ending_tick {} During.harmless_empty h
  change _ = outcome asked (h.view scene) {} at hquiet
  rw [← hquiet]
  simp only [ending, tickThen, Attempt.runOn_bind]
  rcases (tick {}).runOn h with ⟨e | r, b, w⟩
  · rfl
  · obtain ⟨hok, hscene⟩ := runOn_performs hs w
    simp only [Attempt.follow_ok, Attempt.runOn_bind, Attempt.runOn_onWorld, hok,
      Attempt.runOn_pure, returned, Option.map_some, Prod.map, id, Held.view, hscene]

theorem ending_thenTick :
    ending (thenTick as) h = outcome asked ((h.view scene).view (as.foldl Scene.after ·)) {} := by
  obtain ⟨hok, hscene⟩ := runOn_performs hs h.world
  have hquiet := ending_tick {} During.harmless_empty
    ⟨h.own, ((as.forM Action.perform).runOn h.world).2⟩
  rw [Held.view, hscene] at hquiet
  refine Eq.trans ?_ hquiet
  simp only [ending, thenTick, Attempt.runOn_bind, Attempt.runOn_onWorld, hok, Attempt.follow_ok]

omit hs

/-- Where the actions are seen that happen inside a tick. -/
structure Seamless (as : List Action) (h : Held (Block Line Line) Rig) : Prop where
  /-- Once the acquisition is over, all of them by the next tick. -/
  pitot : ending (tick { pitot := as }) h = ending (tickThen as) h
  battery : ending (tick { battery := as }) h = ending (tickThen as) h
  range : ending (tick { range := as }) h = ending (tickThen as) h
  /-- Before the link has answered, all of them by this tick. -/
  requested : ending (tick { requested := as }) h = ending (thenTick as) h
  /-- Pulses that come when the widths are out are seen by the next tick. -/
  pulses_at_widths : (∀ a ∈ as, a.part = .capture) →
    ending (tick { widths := as }) h = ending (tickThen as) h
  /-- So are the levels and masks that come when the inputs are out. -/
  digital_at_inputs : (∀ a ∈ as, a.part = .digital) →
    ending (tick { inputs := as }) h = ending (tickThen as) h
  digital_at_widths : (∀ a ∈ as, a.part = .digital) →
    ending (tick { widths := as }) h = ending (tickThen as) h
  /-- Pulses and samples that come by then are seen by this tick. -/
  others_at_inputs : (∀ a ∈ as, a.part ≠ .digital) →
    ending (tick { inputs := as }) h = ending (thenTick as) h
  /-- So are the samples that come when the widths are out. -/
  samples_at_widths : (∀ a ∈ as, a.part = .analog) →
    ending (tick { widths := as }) h = ending (thenTick as) h

/-- **What happens inside a tick is neither lost nor torn**: it is as if it had happened before the
tick or after it, and one of these for each event. -/
theorem tick_seamless (as : List Action) (hs : ∀ a ∈ as, a.Harmless)
    (h : Held (Block Line Line) Rig) : Seamless as h := by
  have hthen := ending_tickThen hs h
  have hfirst := ending_thenTick hs h
  -- the mask is the link's own, so only the pads decide it
  have hasked (hd : ∀ a ∈ as, a.part ≠ .digital) (s : Scene) :
      asked (as.foldl Scene.after s) = asked s := by
    have hpads := (Spares.foldl hd).pads_eq s
    exact congrArg Pads.request hpads
  refine ⟨?_, ?_, ?_, ?_, fun hp => ?_, fun hp => ?_, fun hp => ?_, fun hp => ?_, fun hp => ?_⟩
  · rw [hthen, ending_tick { pitot := as } ⟨nofun, nofun, nofun, hs, nofun, nofun⟩]
    exact settled_after asked _ _ id id
  · rw [hthen, ending_tick { battery := as } ⟨nofun, nofun, nofun, nofun, hs, nofun⟩]
    exact settled_after asked _ id _ id
  · rw [hthen, ending_tick { range := as } ⟨nofun, nofun, nofun, nofun, nofun, hs⟩]
    exact settled_after asked _ id id _
  · rw [hfirst, ending_tick { requested := as } ⟨hs, nofun, nofun, nofun, nofun, nofun⟩]
    exact preset_requested asked _
  · rw [hthen, ending_tick { widths := as } ⟨nofun, nofun, hs, nofun, nofun, nofun⟩]
    exact settled_widths asked _ (Spares.foldl fun a ha => by rw [hp a ha]; nofun).view
  · rw [hthen, ending_tick { inputs := as } ⟨nofun, hs, nofun, nofun, nofun, nofun⟩]
    exact settled_inputs asked _ (Spares.foldl fun a ha => by rw [hp a ha]; nofun).captureView
      (Spares.foldl fun a ha => by rw [hp a ha]; nofun).view
  · rw [hthen, ending_tick { widths := as } ⟨nofun, nofun, hs, nofun, nofun, nofun⟩]
    exact settled_widths asked _ (Spares.foldl fun a ha => by rw [hp a ha]; nofun).view
  · rw [hfirst, ending_tick { inputs := as } ⟨nofun, hs, nofun, nofun, nofun, nofun⟩]
    exact preset_inputs asked _ (hasked hp) (Spares.foldl hp).pinView
  · have hd : ∀ a ∈ as, a.part ≠ .digital := fun a ha => by rw [hp a ha]; nofun
    rw [hfirst, ending_tick { widths := as } ⟨nofun, nofun, hs, nofun, nofun, nofun⟩]
    exact preset_widths asked _ (hasked hd) (Spares.foldl hd).pinView
      (Spares.foldl fun a ha => by rw [hp a ha]; nofun).captureView

def crowd : List Action :=
  [.push [100, 200, 300, 400], .edge 0b0010 1000, .driveInputs 0b0101, .request 0b0011,
    .recalibrate (.bounds 10 20)]

/-- All of it in the middle of the first tick, which returns. -/
theorem tick_seamless_crowd :
    (∀ a ∈ crowd, a.Harmless) ∧
      (ending (tick { pitot := crowd }) (mount block (start 0 0 0))).isSome ∧
      Seamless crowd (mount block (start 0 0 0)) := by
  have hs : ∀ a ∈ crowd, a.Harmless := by
    intro a ha
    rw [harmless_iff]
    rintro w rfl
    have hw : w = .bounds 10 20 := by simpa [crowd] using ha
    exact ⟨⟨10, 20, by decide⟩, by rw [hw]; rfl⟩
  exact ⟨hs, by decide +kernel, tick_seamless crowd hs _⟩

end Rig

end SensorBoard
