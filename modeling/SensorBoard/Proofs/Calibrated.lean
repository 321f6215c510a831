import SensorBoard.Proofs.Interrupted

/-!
# No pulse is measured with the wrong window

The capture starts with a window for another counter, and edges may be pending from the first moment
on. What keeps them from being measured with that window is the order of the start: the window is
replaced while the handler has no source, and stays in force from then on.

* `Shared.InForce`: the source and the window in force; no run of the handler has found another
  source, nor this source with another window.
* `Shared.Measured`: two runs of the handler have measured a width, from a rise to a fall.
* `Firmware.leads_listen`: a start that comes to the input edges installs window and source.
* `Firmware.published_measured`: **every width that is ever published was measured with the window
  of the board's counter**, both ends stamped by that counter, wherever the program is interrupted.
-/

namespace SensorBoard

/-! ## The invariant -/

namespace Shared

variable {source : Option EdgeSource} {e : EdgeSource} {w : Window} {s : Shared} {l : Line}
  {width : UInt16}

/-- A source and a window are in force, and the capture follows the snapshots of the handler. -/
structure InForce (source : Option EdgeSource) (w : Window) (s : Shared) : Prop where
  installed : s.source = source
  window : s.capture.window = w
  follows : s.capture.Follows s.history
  /-- A run of the handler has found no source, or this one and this window. -/
  found : ∀ r ∈ s.handled, ∀ e, r.machine.edgeSource = some e →
    source = some e ∧ r.machine.capture.window = w

/-- Of the runs of the handler until some moment, one has taken the last fall of a line and one the
latest rise before it; the width is that of the time between, in a window. Both runs have found the
source, and the fall the window. -/
def Measured (e : EdgeSource) (w : Window) (s : Shared) (l : Line) (width : UInt16) : Prop :=
  ∃ before later, s.handled = before ++ later ∧ ∃ rise ∈ before, ∃ fall ∈ before,
    rise.machine.edgeSource = some e ∧ fall.machine.edgeSource = some e ∧
    fall.machine.capture.window = w ∧
    LastPulse l (before.filterMap Exposed.batch?) (rise.batch e) (fall.batch e) ∧
    width = w.width ((fall.batch e).now - (rise.batch e).now)

theorem history_after (s : Shared) (r : Exposed) :
    (s.after r).history = s.history ++ r.batch?.toList := by
  show (s.handled ++ [r]).filterMap _ = _
  rw [List.filterMap_append]
  cases h : r.batch? <;> simp [history, h]

theorem InForce.stable (source : Option EdgeSource) (w : Window) : Stable (InForce source w) := by
  rintro s r ⟨hsource, hcapture⟩ h
  have hfollows : (s.after r).capture.Follows (s.after r).history := by
    rw [history_after, after]
    cases hr : r.machine.edgeSource with
    | none =>
      rw [Exposed.batch?, hr]
      simpa using h.follows
    | some e =>
      rw [Exposed.batch?, hr]
      have hrecord := h.follows.record (r.batch e).after (r.batch e).now
      rw [← hcapture] at hrecord ⊢
      exact hrecord
  have hwindow : (s.after r).capture.window = s.capture.window := by
    rw [after]
    cases r.batch? <;> rfl
  refine ⟨h.installed, hwindow.trans h.window, hfollows, fun r' hr' e he => ?_⟩
  rcases List.mem_append.1 hr' with hr' | hr'
  · exact h.found r' hr' e he
  · rw [List.mem_singleton.1 hr'] at he ⊢
    exact ⟨h.installed.symm.trans (hsource.symm.trans he), hcapture ▸ h.window⟩

theorem Measured.stable (e : EdgeSource) (w : Window) (l : Line) (width : UInt16) :
    Stable fun s => Measured e w s l width := by
  rintro s r - ⟨before, later, hs, hmeasured⟩
  exact ⟨before, later ++ [r], by rw [after, hs, List.append_assoc], hmeasured⟩

/-- **A width in the capture was measured with what is in force.** -/
theorem InForce.measured (h : InForce (some e) w s) (hl : s.capture.widths.get l ≠ 0) :
    Measured e w s l (s.capture.widths.get l) := by
  have hbatch {b : Batch} (hb : b ∈ s.history) : ∃ r ∈ s.handled, r.machine.edgeSource = some e ∧
      r.machine.capture.window = w ∧ r.batch e = b := by
    obtain ⟨r, hr, hrb⟩ := List.mem_filterMap.1 hb
    obtain ⟨e', he', rfl⟩ := Option.map_eq_some_iff.1 hrb
    obtain ⟨hsame, hw⟩ := h.found r hr e' he'
    cases hsame
    exact ⟨r, hr, he', hw, rfl⟩
  -- a line that is no pulse line or never fell has width 0
  have hfell : l.carriesPulses = true ∧ ∃ b ∈ s.history, b.Falls l :=
    Classical.byContradiction fun hnot =>
      hl (h.follows.unmeasured l fun hcar b hb hf => hnot ⟨hcar, b, hb, hf⟩)
  obtain ⟨b, b', hp, hwidth⟩ := h.follows.measured l hfell.1 hfell.2
  obtain ⟨earlier, between, later, hs, -⟩ := id hp
  obtain ⟨rise, hrise, hrisee, -, rfl⟩ := hbatch (b := b) (by rw [hs]; simp)
  obtain ⟨fall, hfall, hfalle, hfallw, rfl⟩ := hbatch (b := b') (by rw [hs]; simp)
  refine ⟨s.handled, [], by simp, rise, hrise, fall, hfall, hrisee, hfalle, hfallw, hp, ?_⟩
  rw [hwidth, ← hfallw]
  rfl

/-- Without a source no run of the handler has used the window, so it may be replaced. -/
theorem InForce.recalibrate (h : InForce none w s) (w' : Window) :
    InForce none w' { s with capture := s.capture.recalibrate w' } where
  installed := h.installed
  window := rfl
  follows := h.follows.recalibrate w'
  found r hr e he := nomatch (h.found r hr e he).1

theorem InForce.install (h : InForce none w s) (e : EdgeSource) :
    InForce (some e) w { s with source := some e } where
  installed := rfl
  window := h.window
  follows := h.follows
  found r hr e he := nomatch (h.found r hr e he).1

end Shared

/-! ## The writes of the program -/

namespace Interrupted

variable {w w' : Window} {e : EdgeSource}

abbrev InForce (source : Option EdgeSource) (w : Window) (x : Interrupted) : Prop :=
  x.shared.InForce source w

/-- What the program shares has these in force, and the widths were measured with them. -/
def Shows (e : EdgeSource) (w : Window) (v : PerLine UInt16) (x : Interrupted) : Prop :=
  x.InForce (some e) w ∧ ∀ l, v.get l ≠ 0 → x.shared.Measured e w l (v.get l)

theorem callsKeep_inForce (source : Option EdgeSource) (w : Window) :
    Firmware.CallsKeep (InForce source w) :=
  callsKeep (Shared.InForce.stable source w)

/-- **Another window is put in force while there is no source.** No run of the handler comes between
the load of the capture and its store. -/
theorem leads_recalibrate (w w' : Window) :
    Step.Leads (InForce none w) (SharedCapture.recalibrate w') fun _ => InForce none w' := by
  have hpass {x : Interrupted} (h : x.InForce none w) : x.pass.InForce none w :=
    pass_stable (Shared.InForce.stable none w) h
  have henter : Step.Leads (InForce none w) CriticalSection.enter
      fun _ x => x.InForce none w ∧ x.depth ≠ 0 :=
    fun x h => ⟨hpass h, Nat.succ_ne_zero x.pass.depth⟩
  have hload : Step.Leads (fun x : Interrupted => x.InForce none w ∧ x.depth ≠ 0)
      SharedCapture.load fun c x => (x.InForce none w ∧ x.depth ≠ 0) ∧ x.machine.capture = c :=
    fun x h => ⟨⟨hpass h.1, fun h0 => h.2 (x.depth_pass.symm.trans h0)⟩, rfl⟩
  have hstore (c : Capture) : Step.Leads
      (fun x : Interrupted => (x.InForce none w ∧ x.depth ≠ 0) ∧ x.machine.capture = c)
      (SharedCapture.store (c.recalibrate w')) fun _ => InForce none w' := by
    rintro x ⟨⟨h, hdepth⟩, rfl⟩
    have hsame : x.pass.shared = x.shared := shared_pass hdepth
    have hw : ({ x.pass.shared with capture := x.machine.capture.recalibrate w' } : Shared).InForce
        none w' := by
      rw [hsame]
      exact h.recalibrate w'
    exact hw
  exact Step.Leads.bind ((callsKeep_inForce none w).log _) fun _ =>
    .atomically henter (hload.bind hstore) fun _ => (callsKeep_inForce none w').leave

/-- The source is installed, with the window that is in force. -/
theorem leads_install (w : Window) (e : EdgeSource) :
    Step.Leads (InForce none w) (.atomically (Statics.installEdgeSource e))
      fun _ => InForce (some e) w := by
  have hinstall : Step.Leads (InForce none w) (Statics.installEdgeSource e)
      fun _ => InForce (some e) w :=
    fun _ h => (pass_stable (Shared.InForce.stable none w) h).install e
  exact .atomically (callsKeep_inForce none w).enter hinstall fun _ =>
    (callsKeep_inForce (some e) w).leave

/-- What was measured stays measured. -/
theorem callsKeep_shows (e : EdgeSource) (w : Window) (v : PerLine UInt16) :
    Firmware.CallsKeep (Shows e w v) :=
  callsKeep (P := fun s => s.InForce (some e) w ∧ ∀ l, v.get l ≠ 0 → s.Measured e w l (v.get l))
    fun s r hr h => ⟨Shared.InForce.stable _ w s r hr h.1,
      fun l hl => Shared.Measured.stable e w l _ s r hr (h.2 l hl)⟩

/-- The widths that are loaded were measured. -/
theorem leads_latestWidths (v : PerLine UInt16) :
    Step.Leads (Shows e w v) SharedCapture.latestWidths (Shows e w) := by
  have hload : Step.Leads (Shows e w v) SharedCapture.load fun c => Shows e w c.widths := by
    intro x h
    have hpass : x.pass.InForce (some e) w := pass_stable (Shared.InForce.stable _ w) h.1
    exact ⟨hpass, fun l hl => hpass.measured hl⟩
  exact .atomically (callsKeep_shows e w v).enter (hload.bind fun _ _ h => h) fun v' =>
    (callsKeep_shows e w v').leave

end Interrupted

/-! ## Runs from a reset -/

namespace Firmware

variable {σ : Type}

/-- The window of the board's counter: 0.85 to 2.15 ms at 50 MHz. -/
def boardWindow : Window := ⟨42500, 107500, by decide⟩

theorem forCounterHz_captureCounterHz :
    Window.forCounterHz captureCounterHz = .ok boardWindow := rfl

/-- The source of edges that the start installs. -/
def Prepared.source (p : Prepared) : EdgeSource := ⟨.ofPins p.inputs, p.counter⟩

section

variable [Device σ] [Statics σ] [SharedCapture σ] [CriticalSection σ] [Logger σ]

/-- A number of rounds of the loop. -/
def cycles : Nat → Act (Running σ) Unit
  | 0 => return ()
  | n + 1 => do
    cycle
    cycles n

/-- The widths that were published last, after the start and a number of rounds, and the world by
then. A start that fails publishes nothing, and a round that fails is the last one. -/
def published (n : Nat) (w : σ) : PerLine UInt16 × σ :=
  match boot.runOn w with
  | (.ok parts, w) =>
    let r := ((cycles n).runOn (parts.inWorld w)).2
    (r.world.own.widths, r.world.world.world)
  | (.error _, w) => (.replicate 0, w)

theorem keeps_cycles {I : PerLine UInt16 → σ → Prop} (hcalls : ∀ w, CallsKeep (I w))
    (hload : ∀ w, Step.Leads (I w) SharedCapture.latestWidths I) (n : Nat) :
    Attempt.Keeps (fun r : Running σ => I r.world.own.widths r.world.world.world) (cycles n) := by
  induction n with
  | zero => exact Attempt.keeps_pure ()
  | succ n ih => exact (keeps_cycle hcalls hload).bind fun _ => ih

end

open Interrupted

/-- **The order of the start**: it comes through, the window of the board's counter is in force when
the source is installed, and nothing is published yet. -/
theorem leads_listen (p : Prepared) (w : Window) :
    Attempt.Leads (InForce none w) (listen p)
      (fun parts x => x.InForce (some p.source) boardWindow ∧
        parts.telemetry.widths = .replicate 0) fun _ => False := by
  have hwindow : Attempt.Leads (InForce none w)
      (.of (Window.forCounterHz captureCounterHz) : Act Interrupted Window)
      (fun w' x => w' = boardWindow ∧ x.InForce none w) fun _ => False := by
    rw [forCounterHz_captureCounterHz]
    exact fun x h => .ok ⟨rfl, h⟩
  have hbefore := callsKeep_inForce none boardWindow
  have hafter := callsKeep_inForce (some p.source) boardWindow
  have hdrive (pin : Pin) (high : Bool) :
      Step.Keeps (InForce (some p.source) boardWindow) (OutputPin.drive pin high) :=
    hafter.perform (.pinLevel pin.gpio high)
  have hdigital : Step.Keeps (InForce (some p.source) boardWindow)
      (Controller.configure p.outputs p.inputs) :=
    (Controller.keeps_driveAll hdrive _ _).bind fun _ => Step.keeps_pure _
  refine hwindow.bind fun w' => ?_
  rintro x ⟨rfl, h⟩
  revert x
  refine (leads_recalibrate w boardWindow).lift.bind fun _ => ?_
  refine Attempt.Leads.bind (Step.Leads.lift (hbefore.log _)) fun _ => ?_
  refine (leads_install boardWindow p.source).lift.bind fun _ => ?_
  refine Attempt.Leads.bind (Step.Leads.lift hdigital) fun _ => ?_
  refine Attempt.Leads.bind (Step.Leads.lift (hafter.perform _)) fun _ => ?_
  refine Attempt.Leads.bind (Step.Leads.lift (hafter.log _)) fun _ => ?_
  exact fun x h => .ok ⟨h, rfl⟩

/-- The machine after a reset, with what will happen to it. -/
def afterReset (chip : Chip) (coming : List (List Machine.Happening)) : Interrupted :=
  { machine := { chip }, coming }

/-- **Every run from a reset**: either the start fails before there is a source, and nothing is
published, or the source and the window of the board are in force and the widths were measured with
them. -/
theorem published_cases (chip : Chip) (coming : List (List Machine.Happening)) (n : Nat) :
    ((published n (afterReset chip coming)).2.InForce none .reference ∧
      (published n (afterReset chip coming)).1 = .replicate 0) ∨
    ∃ p, (prepare.runOn (afterReset chip coming)).1 = .ok p ∧
      (published n (afterReset chip coming)).2.Shows p.source boardWindow
        (published n (afterReset chip coming)).1 := by
  have hreset : (afterReset chip coming).InForce none .reference :=
    ⟨rfl, rfl, Capture.follows_start _, fun r hr => nomatch hr⟩
  have hprepare := Attempt.keeps_iff.1 (callsKeep_inForce none .reference).prepare _ hreset
  have hboot : boot.runOn (afterReset chip coming) =
      Attempt.follow listen (prepare.runOn (afterReset chip coming)) := by
    rw [boot_eq, Attempt.runOn_bind]
  rcases hp : prepare.runOn (afterReset chip coming) with ⟨e | p, x₀⟩ <;> rw [hp] at hprepare hboot
  · refine .inl ?_
    rw [published, hboot]
    exact ⟨hprepare, rfl⟩
  refine .inr ⟨p, rfl, ?_⟩
  have hlisten := leads_listen p .reference x₀ hprepare
  rcases hl : (listen p).runOn x₀ with ⟨e | parts, x₁⟩ <;> rw [hl] at hlisten
  · cases hlisten with | error hfalse => exact hfalse.elim
  obtain ⟨hforce, hwidths⟩ : x₁.InForce (some p.source) boardWindow ∧
      parts.telemetry.widths = .replicate 0 := by
    cases hlisten with | ok h => exact h
  have hstart : x₁.Shows p.source boardWindow parts.telemetry.widths :=
    ⟨hforce, fun l hl => absurd (by rw [hwidths, PerLine.get_replicate]) hl⟩
  have hcycles := Attempt.keeps_iff.1
    (keeps_cycles (callsKeep_shows p.source boardWindow) leads_latestWidths n)
    (parts.inWorld x₁) hstart
  rw [published, hboot, Attempt.follow_ok, hl]
  exact hcycles

/-- What a run of the handler does after a reset: before the source is installed it leaves the
capture as it is; then it finds the one source that the start has made, with the start's counter,
and the window of the board in force. -/
structure Handled (prepared : Except Fatal Prepared) (r : Exposed) : Prop where
  idle : r.machine.edgeSource = none →
    (edgeInterrupt.runOn r).2.machine.capture = r.machine.capture
  working : ∀ e, r.machine.edgeSource = some e →
    ∃ p, prepared = .ok p ∧ e = p.source ∧ r.machine.capture.window = boardWindow

/-- **No pulse is measured with the wrong window.** From a reset, whatever happens and wherever the
program is interrupted, no run of the handler changes the capture before the source is installed.
And every width other than 0 that any tick publishes was measured between two runs of the handler
with the window of the board's counter, 42500 to 107500 ticks, both ends stamped by the one counter
that the start has set up. -/
theorem published_measured (chip : Chip) (coming : List (List Machine.Happening)) (n : Nat) :
    let prepared := (prepare.runOn (afterReset chip coming)).1
    let r := published n (afterReset chip coming)
    Window.forCounterHz captureCounterHz = .ok boardWindow ∧
      boardWindow.low = 42500 ∧ boardWindow.high = 107500 ∧
      (∀ h ∈ r.2.handled, Handled prepared h) ∧
      ∀ l, r.1.get l ≠ 0 → ∃ p, prepared = .ok p ∧
        r.2.shared.Measured p.source boardWindow l (r.1.get l) := by
  intro prepared r
  refine ⟨forCounterHz_captureCounterHz, rfl, rfl, ?_⟩
  rcases published_cases chip coming n with ⟨hforce, hwidths⟩ | ⟨p, hp, hforce, hmeasured⟩
  · refine ⟨fun h hh => ⟨Exposed.capture_edgeInterrupt_idle, fun e he => ?_⟩, fun l hl => ?_⟩
    · exact nomatch (hforce.found h hh e he).1
    · exact absurd (by rw [hwidths, PerLine.get_replicate]) hl
  · refine ⟨fun h hh => ⟨Exposed.capture_edgeInterrupt_idle, fun e he => ?_⟩, fun l hl => ?_⟩
    · obtain ⟨hsource, hw⟩ := hforce.found h hh e he
      exact ⟨p, hp, (Option.some.inj hsource).symm, hw⟩
    · exact ⟨p, hp, hmeasured l hl⟩

/-- A pulse of 60000 ticks on line 1, between two operations of the program each of which is
preceded by a run of the handler. -/
def pulse : List (List Machine.Happening) :=
  [[.action (.wires 0x800 0x800), .handler []],
    [.action (.advance 60000), .action (.wires 0 0x800), .handler []]]

-- after the last of the start's 62 operations the pulse is published by the first tick
example : (published 1 (afterReset {} (.replicate 62 [] ++ pulse))).1 = ⟨0, 17500, 0, 0⟩ := by
  decide +kernel

-- before there is a source it is not measured at all, even if the interrupt was never masked
example : (published 1 (afterReset { unmasked := true } (.replicate 4 [] ++ pulse))).1 =
    .replicate 0 := by
  decide +kernel

end Firmware

end SensorBoard
