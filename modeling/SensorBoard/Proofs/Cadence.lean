import SensorBoard.Chip.Machine
import SensorBoard.Proofs.FrontEnd
import SensorBoard.Proofs.Keeping
import SensorBoard.Proofs.Safety

/-!
# The cadence of the telemetry

A line of telemetry is put together over five calls of one tick, and a counter decides whether it is
logged. The counter has 32 bits, and 2³² is not a multiple of 1000: at every wrap it skips ahead in
its thousands. A tick logs other messages too, and it may end early, after some of the calls.

* `Logger.withoutInfo`: an acquisition and a change of the outputs are the same over a logger that
  drops all messages at the level of the telemetry. So the lines of a tick are those of its link.
* `Block.ends_watch`: **a tick that returns is counted, and what it may log is its own report**; one
  that ends early is not counted and logs no line.
* `Block.getElem?_completed`: which ticks of a run have a line.
* `Block.cadence`: **lines are a thousand ticks apart in just the runs that are shorter than 2³²
  ticks.**
-/

namespace SensorBoard

variable {σ O I : Type}

/-! ## Lines on record -/

namespace Observed

instance [OutputPin O σ] : OutputPin O (Observed σ) where
  drive pin high := unrecorded (OutputPin.drive pin high)

instance [InputPin I σ] : InputPin I (Observed σ) where
  isHigh pin := unrecorded (InputPin.isHigh pin)

instance [SharedCapture σ] : SharedCapture (Observed σ) where
  load := unrecorded SharedCapture.load
  store c := unrecorded (SharedCapture.store c)

instance [Statics σ] : Statics (Observed σ) where
  requested := unrecorded Statics.requested
  takeRing := unrecorded Statics.takeRing
  ringSample i := unrecorded (Statics.ringSample i)
  edgeSource := unrecorded Statics.edgeSource
  installEdgeSource e := unrecorded (Statics.installEdgeSource e)

/-- The messages on record that are at the level of the telemetry. -/
def lines (o : Observed σ) : List Message := o.messages.filter (·.level = .info)

theorem lines_log [Logger σ] (m : Message) (o : Observed σ) :
    ((log m).runOn o).2.lines = o.lines ++ if m.level = .info then [m] else [] := by
  rw [lines, messages_log, List.filter_append, lines]
  by_cases h : m.level = .info <;> simp [h]

end Observed

/-! ## What logs no line -/

/-- A logger that drops the messages at the level of the telemetry. -/
@[reducible]
def Logger.withoutInfo [Logger σ] : Logger σ where
  log m := if m.level = .info then pure () else log m

namespace Pipeline

variable [Sampler σ] [l : Logger σ]

theorem drain_withoutInfo (n : Nat) : @drain σ _ l.withoutInfo n = drain n := by
  induction n with
  | zero => rfl
  | succ n ih => exact congrArg (drainOne >>= fun _ => ·) ih

variable [CriticalSection σ]

theorem recover_withoutInfo (f : Fault) : @recover σ _ l.withoutInfo _ f = recover f := by
  cases f <;> rfl

/-- **An acquisition logs nothing at the level of the telemetry.** -/
theorem acquire_withoutInfo : @acquire σ _ l.withoutInfo _ = acquire := by
  unfold acquire
  simp only [recover_withoutInfo, drain_withoutInfo]
  rfl

end Pipeline

/-- The telemetry log is as given, and no line was logged. -/
def Silent (t : TelemetryLog) (w : Held TelemetryLog (Observed σ)) : Prop :=
  w.own = t ∧ w.world.lines = []

namespace Silent

variable [Logger σ] (t : TelemetryLog)

theorem keeps_log (m : Message) :
    Step.Keeps (Silent (σ := σ) t) (@log _ Logger.withoutInfo m) := by
  intro w ⟨ht, hl⟩
  by_cases h : m.level = .info
  · have hdropped : @log (Held TelemetryLog (Observed σ)) Logger.withoutInfo m = pure () := if_pos h
    rw [hdropped]
    exact ⟨ht, hl⟩
  · have hlogged : @log (Held TelemetryLog (Observed σ)) Logger.withoutInfo m = log m := if_neg h
    have hlines : ((log m).runOn w).2.world.lines = [] := by
      rw [log_held, Step.runOn_onWorld, Observed.lines_log, if_neg h, hl, List.append_nil]
    rw [hlogged]
    exact ⟨ht, hlines⟩

theorem keeps_setOutputs [OutputPin O σ] (mask : UInt8) :
    Step.Keeps (Held.OfWorld (κ := Controller O I) (Silent (σ := σ) t))
      (Controller.setOutputs mask) := by
  have hdrive (pin : O) (high : Bool) : Step.Keeps (Silent (σ := σ) t) (OutputPin.drive pin high) :=
    fun _ h => h
  exact @Controller.keeps_setOutputs _ _ _ _ _ Logger.withoutInfo hdrive (keeps_log t) mask

theorem keeps_acquire [Sampler σ] [CriticalSection σ] :
    Attempt.Keeps (Held.OfWorld (Silent (σ := σ) t)) Pipeline.acquire := by
  have hcalls : @Pipeline.CallsKeep _ _ Logger.withoutInfo _ (Silent (σ := σ) t) :=
    let _ : Logger (Held TelemetryLog (Observed σ)) := Logger.withoutInfo
    { written := Attempt.keeps_iff.2 fun _ h => h
      halt := Attempt.keeps_iff.2 fun _ h => h
      configure := fun _ => Attempt.keeps_iff.2 fun _ h => h
      resume := Attempt.keeps_iff.2 fun _ h => h
      sampleAt := fun _ _ h => h
      log := keeps_log t
      enter := fun _ h => h
      leave := fun _ h => h }
  have hmuted := @Pipeline.CallsKeep.acquire _ _ _ Logger.withoutInfo _ hcalls
  rwa [Pipeline.acquire_withoutInfo] at hmuted

end Silent

/-! ## One tick -/

/-- The line that a report makes. -/
def Report.line (r : Report) : Message :=
  .telemetry r.inputs.toByte r.widths r.analog.pitot r.analog.batteryCurrent r.analog.batteryVoltage
    r.analog.aux

namespace TelemetryLog

/-- The log after a tick with this report. -/
def reported (t : TelemetryLog) (r : Report) : TelemetryLog where
  ticks := t.ticks + 1
  inputs := r.inputs.toByte
  widths := r.widths
  pitot := r.analog.pitot
  current := r.analog.batteryCurrent
  voltage := r.analog.batteryVoltage

/-- The lines of a tick with this report. -/
def due (t : TelemetryLog) (r : Report) : List Message :=
  if (t.ticks + 1) % telemetryInterval = 0 then [r.line] else []

theorem due_eq (t : TelemetryLog) (r : Report) :
    t.due r = if (t.ticks.toNat + 1) % 4294967296 % 1000 = 0 then [r.line] else [] := by
  have hturn : (t.ticks + 1) % telemetryInterval = 0 ↔
      (t.ticks.toNat + 1) % 4294967296 % 1000 = 0 := by
    rw [← UInt32.toNat_inj, UInt32.toNat_mod, UInt32.toNat_add]
    exact Iff.rfl
  simp only [due, hturn]

theorem runOn_endTick [Logger σ] (v : UInt16) (h : Held TelemetryLog σ) :
    ((endTick v).runOn h).2 =
      ⟨{ h.own with ticks := h.own.ticks + 1 },
        if (h.own.ticks + 1) % telemetryInterval = 0 then
          ((log (.telemetry h.own.inputs h.own.widths h.own.pitot h.own.current h.own.voltage
            v)).runOn h.world).2
        else h.world⟩ := by
  change (Step.runOn (if (h.own.ticks + 1) % telemetryInterval = 0 then _ else _) _).2 = _
  split <;> rfl

end TelemetryLog

namespace Block

/-- A block at work with a telemetry log. -/
abbrev Reporting (O I σ : Type) : Type := Held (Block O I) (Held TelemetryLog σ)

section Midway

variable {R : Pipeline → Prop} {E : Held TelemetryLog (Observed σ) → Prop}

/-- In the midst of a tick: the telemetry log is as given, and no line was logged. -/
def Midway (R : Pipeline → Prop) (t : TelemetryLog) (h : Reporting O I (Observed σ)) : Prop :=
  R h.own.analog ∧ Silent t h.world

theorem leads_put (t : TelemetryLog) (f : TelemetryLog → TelemetryLog) :
    Attempt.Leads (Midway (O := O) (I := I) (σ := σ) R t) (.onWorld (TelemetryLog.put f))
      (fun _ => Midway R (f t)) (Held.OfWorld E) :=
  fun _ ⟨hR, ht, hl⟩ => .ok ⟨hR, congrArg f ht, hl⟩

/-- The last call of a tick is the one that counts it. -/
theorem leads_endTick [Logger σ] (t : TelemetryLog) (v : UInt16) :
    Attempt.Leads (Midway R t)
      (.onWorld (.lift (TelemetryLog.endTick v)) : Act (Reporting O I (Observed σ)) Unit)
      (fun _ h => R h.own.analog ∧ h.world.own = { t with ticks := t.ticks + 1 } ∧
        h.world.world.lines =
          if (t.ticks + 1) % telemetryInterval = 0 then
            [.telemetry t.inputs t.widths t.pitot t.current t.voltage v]
          else []) (Held.OfWorld E) := by
  rintro ⟨b, own, o⟩ ⟨hR, rfl, hl⟩
  have hrun : Attempt.runOn (.onWorld (.lift (TelemetryLog.endTick v)) :
        Act (Reporting O I (Observed σ)) Unit) ⟨b, own, o⟩ =
      (.ok (), ⟨b, ((TelemetryLog.endTick v).runOn
        (⟨own, o⟩ : Held TelemetryLog (Observed σ))).2⟩) := rfl
  rw [hrun, TelemetryLog.runOn_endTick]
  refine .ok ⟨hR, rfl, ?_⟩
  dsimp only at hl ⊢
  split
  · rw [Observed.lines_log, hl]
    rfl
  · exact hl

/-- What an acquisition leads to is known of the block's pipeline. -/
theorem leads_onAnalog {τ α : Type} {P S : Held Pipeline τ → Prop} {Q : α → Held Pipeline τ → Prop}
    {x : Act (Held Pipeline τ) α} (hx : x.Leads P Q S) :
    Attempt.Leads (fun h : Held (Block O I) τ => P ⟨h.own.analog, h.world⟩) (onAnalog x)
      (fun a h => Q a ⟨h.own.analog, h.world⟩) (fun h => S ⟨h.own.analog, h.world⟩) := by
  intro h hP
  have hends := hx ⟨h.own.analog, h.world⟩ hP
  rw [onAnalog, Attempt.runOn_onPart]
  generalize x.runOn ⟨h.own.analog, h.world⟩ = r at hends ⊢
  cases hends with
  | ok hQ => exact .ok hQ
  | error hS => exact .error hS

variable [OutputPin O σ] [InputPin I σ] [Sampler σ] [SharedCapture σ] [CriticalSection σ]
  [Logger σ] [Statics σ]

/-- **A tick leaves its report in the log, and may log it.** What is known of the pipeline, and what
holds if the tick ends early, is that of its acquisition: no other call fails. -/
theorem leads_tick (t : TelemetryLog)
    (hacquire : ∀ t' : TelemetryLog, t'.ticks = t.ticks →
      Attempt.Leads (fun p : Held Pipeline (Held TelemetryLog (Observed σ)) =>
          R p.own ∧ Silent t' p.world) Pipeline.acquire
        (fun _ p => R p.own ∧ Silent t' p.world) (Held.OfWorld E)) :
    Attempt.Leads (Midway R t) (tick : Act (Reporting O I (Observed σ)) Report)
      (fun r h => R h.own.analog ∧ h.world.own = t.reported r ∧ h.world.world.lines = t.due r)
      (Held.OfWorld E) := by
  have hrequested : Attempt.Leads (Midway (O := O) (I := I) (σ := σ) R t) (.onWorld Link.requested)
      (fun _ => Midway R t) (Held.OfWorld E) :=
    fun _ h => .ok h
  have hset (mask : UInt8) : Attempt.Leads (Midway (O := O) (I := I) (σ := σ) R t)
      (onDigital (Controller.setOutputs mask)) (fun _ => Midway R t) (Held.OfWorld E) :=
    fun h ⟨hR, hs⟩ => .ok ⟨hR, Silent.keeps_setOutputs t mask ⟨h.own.digital, h.world⟩ hs⟩
  have hread : Attempt.Leads (Midway (O := O) (I := I) (σ := σ) R t)
      (onDigital Controller.readInputs) (fun _ => Midway R t) (Held.OfWorld E) :=
    fun _ h => .ok h
  have hload (t' : TelemetryLog) : Attempt.Leads (ε := Fatal)
      (Midway (O := O) (I := I) (σ := σ) R t') (.lift SharedCapture.latestWidths)
      (fun _ => Midway R t') (Held.OfWorld E) :=
    fun _ h => .ok h
  refine hrequested.bind fun mask => (hset mask).bind fun _ => hread.bind fun inputs =>
    (leads_put t _).bind fun _ => (hload _).bind fun widths => (leads_put _ _).bind fun _ => ?_
  -- the acquisition finds the values of this tick in the log, and leaves them there
  refine (leads_onAnalog (hacquire { t with inputs := inputs.toByte, widths } rfl)).bind fun a =>
    (leads_put _ _).bind fun _ => (leads_put _ _).bind fun _ => ?_
  exact (leads_endTick _ a.readings.aux).bind fun _ _ h => .ok h

end Midway

variable [OutputPin O σ] [InputPin I σ] [Sampler σ] [SharedCapture σ] [CriticalSection σ]
  [Logger σ] [Statics σ]

/-- The same block and log, with nothing on record yet. -/
def observed (h : Reporting O I σ) : Reporting O I (Observed σ) :=
  ⟨h.own, ⟨h.world.own, { world := h.world.world }⟩⟩

/-- A tick with a record of its own. -/
def watch (h : Reporting O I σ) : Except Fatal Report × Reporting O I (Observed σ) :=
  tick.runOn (observed h)

/-- **The record is of the tick itself**: without it the outcome and the state are the same. -/
theorem runOn_tick_eq_watch (h : Reporting O I σ) :
    tick.runOn h = ((watch h).1, (watch h).2.view (Held.view Observed.world)) := by
  have link : LinkView (Held.view (κ := TelemetryLog) (Observed.world : Observed σ → σ))
      inferInstance inferInstance := {
    requested := fun _ => rfl
    inputs := fun _ _ => rfl
    widths := fun _ _ => rfl
    pitot := fun _ _ => rfl
    battery := fun _ _ _ => rfl
    range := fun v => Step.Projects.lift fun t => Prod.ext rfl <| by
      rw [TelemetryLog.runOn_endTick, TelemetryLog.runOn_endTick, Held.view]
      split <;> rfl }
  have pins : PinView O I (Held.view (κ := TelemetryLog) (Observed.world : Observed σ → σ)) :=
    ⟨fun _ _ _ => rfl, fun _ _ => rfl, fun _ _ => rfl⟩
  have capture : CaptureView (Held.view (κ := TelemetryLog) (Observed.world : Observed σ → σ)) :=
    ⟨fun _ => rfl, fun _ => rfl, fun _ => rfl⟩
  have sampler : View (Held.view (κ := TelemetryLog) (Observed.world : Observed σ → σ)) :=
    ⟨fun _ => rfl, fun _ => rfl, fun _ _ => rfl, fun _ => rfl, fun _ _ => rfl, fun _ _ => rfl,
      fun _ => rfl, fun _ => rfl⟩
  exact projects_tickOver link pins capture sampler (observed h)

theorem own_runOn_tick (h : Reporting O I σ) :
    (tick.runOn h).2.own = (watch h).2.own ∧
      (tick.runOn h).2.world.own = (watch h).2.world.own := by
  rw [runOn_tick_eq_watch]
  generalize watch h = w
  exact ⟨rfl, rfl⟩

/-- **A tick that returns is counted, and the line that it may log is that of its own report.** One
that ends early is not counted and logs none. -/
theorem ends_watch (h : Reporting O I σ) :
    Attempt.Ends
      (fun r w => w.world.own = h.world.own.reported r ∧ w.world.world.lines = h.world.own.due r)
      (fun w => w.world.own.ticks = h.world.own.ticks ∧ w.world.world.lines = []) (watch h) := by
  have htick := leads_tick (O := O) (I := I) (R := fun _ => True)
    (E := fun w : Held TelemetryLog (Observed σ) =>
      w.own.ticks = h.world.own.ticks ∧ w.world.lines = []) h.world.own fun t ht p hp =>
    (Silent.keeps_acquire t p hp.2).imp (fun _ _ hs => ⟨trivial, hs⟩) fun _ ⟨hown, hlines⟩ =>
      ⟨(congrArg TelemetryLog.ticks hown).trans ht, hlines⟩
  exact (htick (observed h) ⟨trivial, rfl, rfl⟩).imp (fun _ _ hr => hr.2) fun _ he => he

/-! ## A run -/

/-- A change of the block and its world between two ticks. Nobody else has the telemetry log. -/
def between (f : Held (Block O I) σ → Held (Block O I) σ) (h : Reporting O I σ) :
    Reporting O I σ :=
  let g := f ⟨h.own, h.world.world⟩
  ⟨g.own, ⟨h.world.own, g.world⟩⟩

/-- Ticks in turn, with a change before each: what came of them, and the lines that they logged. A
tick that ends early leaves its state to the next. -/
def ticks : List (Held (Block O I) σ → Held (Block O I) σ) → Reporting O I σ →
    List (Except Fatal Report × List Message)
  | [], _ => []
  | f :: fs, h =>
    let w := watch (between f h)
    (w.1, w.2.world.world.lines) :: ticks fs (tick.runOn (between f h)).2

/-- The ticks that returned: their reports and their lines. -/
def completed (ts : List (Except Fatal Report × List Message)) : List (Report × List Message) :=
  ts.filterMap fun
    | (.ok r, ls) => some (r, ls)
    | (.error _, _) => none

/-- Which of the ticks that returned has a line, by the count before the run. -/
theorem getElem?_completed (fs : List (Held (Block O I) σ → Held (Block O I) σ))
    (h : Reporting O I σ) {k : Nat} {r : Report} {ls : List Message}
    (hk : (completed (ticks fs h))[k]? = some (r, ls)) :
    ls = if (h.world.own.ticks.toNat + k + 1) % 4294967296 % 1000 = 0 then [r.line] else [] := by
  induction fs generalizing h k with
  | nil => cases hk
  | cons f fs ih =>
    have hcount : (between f h).world.own = h.world.own := rfl
    have hends := ends_watch (between f h)
    have hafter := (own_runOn_tick (between f h)).2
    rw [ticks] at hk
    rcases hw : watch (between f h) with ⟨_ | r', w⟩ <;> rw [hw] at hends hafter hk
    · -- the tick ended early, and the count is as before
      obtain ⟨hticks, -⟩ := by cases hends with | error h => exact h
      have hlater := ih _ hk
      rwa [hafter, hticks, hcount] at hlater
    · obtain ⟨hown, hlines⟩ := by cases hends with | ok h => exact h
      cases k with
      | zero =>
        obtain ⟨rfl, rfl⟩ : r' = r ∧ w.world.world.lines = ls := by
          simpa [completed] using hk
        rw [hlines, TelemetryLog.due_eq, hcount]
      | succ k =>
        have hlater := ih (k := k) _ (by simpa [completed] using hk)
        have hticks : (tick.runOn (between f h)).2.world.own.ticks.toNat =
            (h.world.own.ticks.toNat + 1) % 4294967296 := by
          rw [hafter, hown, hcount, TelemetryLog.reported, UInt32.toNat_add]
          rfl
        have hturn : ((h.world.own.ticks.toNat + 1) % 4294967296 + k + 1) % 4294967296 =
            (h.world.own.ticks.toNat + (k + 1) + 1) % 4294967296 := by omega
        rwa [hticks, hturn] at hlater

/-- The same, for a run that starts with a new telemetry log. -/
theorem lines_completed (fs : List (Held (Block O I) σ → Held (Block O I) σ))
    (b : Held (Block O I) σ) (k : Nat) (r : Report) (ls : List Message)
    (hk : (completed (ticks fs ⟨b.own, ⟨{}, b.world⟩⟩))[k]? = some (r, ls)) :
    ls = if (k + 1) % 4294967296 % 1000 = 0 then [r.line] else [] := by
  have h := getElem?_completed fs _ hk
  have hstart : ({} : TelemetryLog).ticks.toNat + k + 1 = k + 1 := by
    rw [show ({} : TelemetryLog).ticks.toNat = 0 from rfl, Nat.zero_add]
  rwa [hstart] at h

theorem lines_of_error (fs : List (Held (Block O I) σ → Held (Block O I) σ))
    (h : Reporting O I σ) {e : Fatal} {ls : List Message} (he : (.error e, ls) ∈ ticks fs h) :
    ls = [] := by
  induction fs generalizing h with
  | nil => cases he
  | cons f fs ih =>
    have hends := ends_watch (between f h)
    rw [ticks] at he
    rcases List.mem_cons.1 he with heq | hlater
    · rcases hw : watch (between f h) with ⟨_ | _, w⟩ <;> rw [hw] at hends heq
      · cases hends with | error hquiet =>
        cases heq
        exact hquiet.2
      · cases heq
    · exact ih _ hlater

/-- Every thousandth tick has a line with its own report, and no other tick has one. -/
def Cadent (ts : List (Report × List Message)) : Prop :=
  ∀ k r ls, ts[k]? = some (r, ls) → ls = if 1000 ∣ k + 1 then [r.line] else []

/-- The first wrap of the count is where the cadence ends: the line at it comes too early. -/
theorem cadent_iff {ts : List (Report × List Message)}
    (h : ∀ k r ls, ts[k]? = some (r, ls) →
      ls = if (k + 1) % 4294967296 % 1000 = 0 then [r.line] else []) :
    Cadent ts ↔ ts.length < 4294967296 := by
  constructor
  · intro hc
    refine Nat.lt_of_not_le fun hlong => ?_
    obtain ⟨⟨r, ls⟩, hlast⟩ : ∃ x, ts[4294967295]? = some x :=
      ⟨_, List.getElem?_eq_getElem (by omega)⟩
    have hline := h _ _ _ hlast
    rw [if_pos (by omega)] at hline
    have hnone := hc _ _ _ hlast
    rw [if_neg (by omega), hline] at hnone
    cases hnone
  · intro hshort k r ls hk
    have hlt : k < ts.length := (List.getElem?_eq_some_iff.1 hk).1
    have hcount : (k + 1) % 4294967296 = k + 1 := Nat.mod_eq_of_lt (by omega)
    rw [h k r ls hk, hcount]
    simp only [Nat.dvd_iff_mod_eq_zero]

/-- **Telemetry keeps its cadence up to the wrap of its count.** Of the ticks that return, over any
world and with any changes of block and world in between, one has a line if its number modulo 2³²
is divisible by 1000, with the values of its own report; no other tick has one. So every thousandth
tick has a line, and no other, in just the runs with fewer than 2³² ticks. -/
theorem cadence (fs : List (Held (Block O I) σ → Held (Block O I) σ)) (b : Held (Block O I) σ) :
    let run := ticks fs ⟨b.own, ⟨{}, b.world⟩⟩
    (∀ k r ls, (completed run)[k]? = some (r, ls) →
      ls = if (k + 1) % 4294967296 % 1000 = 0 then [r.line] else []) ∧
    (∀ e ls, (.error e, ls) ∈ run → ls = []) ∧
    (Cadent (completed run) ↔ (completed run).length < 4294967296) :=
  ⟨lines_completed fs b, fun _ _ he => lines_of_error fs _ he, cadent_iff (lines_completed fs b)⟩

/-! ## A run past the wrap -/

/-- No call of the sampler fails. -/
structure Unfailing (σ : Type) [Sampler σ] : Prop where
  written (w : σ) : ∃ n w', Sampler.written.runOn w = (.ok n, w')
  halt (w : σ) : ∃ w', Sampler.halt.runOn w = (.ok (), w')
  configure (t : Transfer) (w : σ) : ∃ w', (Sampler.configure t).runOn w = (.ok (), w')
  resume (w : σ) : ∃ w', Sampler.resume.runOn w = (.ok (), w')

namespace Unfailing

omit [OutputPin O σ] [InputPin I σ] [SharedCapture σ] [Statics σ]

theorem of_view {τ : Type} [Sampler τ] [Logger τ] [CriticalSection τ] {π : τ → σ} (view : View π)
    (v : Unfailing σ) : Unfailing τ := by
  have hok {α : Type} {x : Attempt SamplerCall τ α} {y : Attempt SamplerCall σ α} {a : α}
      (hx : Attempt.Projects π x y) (w : τ) (hy : ∃ w', y.runOn (π w) = (.ok a, w')) :
      ∃ w', x.runOn w = (.ok a, w') := by
    obtain ⟨w', hw⟩ := hy
    rw [hx w] at hw
    exact ⟨(x.runOn w).2, Prod.ext (Prod.mk.inj hw).1 rfl⟩
  constructor
  case written =>
    intro w
    obtain ⟨n, hn⟩ := v.written (π w)
    exact ⟨n, hok view.written w hn⟩
  case halt => exact fun w => hok view.halt w (v.halt _)
  case configure => exact fun t w => hok (view.configure t) w (v.configure t _)
  case resume => exact fun w => hok view.resume w (v.resume _)

theorem restart (v : Unfailing σ) (f : Fault) (t : Transfer) (w : σ) :
    ∃ w', (Pipeline.restart f t).runOn w = (.ok (), w') := by
  rcases Pipeline.restart_cases f t w with ⟨e, w₁, hhalt, -⟩ | ⟨w₁, c, w₂, r, w₃, -, hc, hr, hrun⟩
  · obtain ⟨w', hok⟩ := v.halt ((log f.message).runOn w).2
    rw [hok] at hhalt
    cases hhalt
  · obtain ⟨w', hok⟩ := v.configure t
      (CriticalSection.enter.runOn ((log .reconfiguring).runOn w₁).2).2
    obtain ⟨w'', hok'⟩ := v.resume (CriticalSection.leave.runOn w₂).2
    rw [hok] at hc
    rw [hok'] at hr
    cases hc
    cases hr
    exact ⟨w₃, hrun⟩

theorem acquire (v : Unfailing σ) {p : Pipeline} (hp : p.Cleared) (w : σ) :
    Attempt.Ends (fun _ h => h.own.Cleared) (fun _ => False)
      (Pipeline.acquire.runOn (⟨p, w⟩ : Held Pipeline σ)) := by
  have h := Pipeline.exit_acquire hp w
  generalize Pipeline.acquire.runOn (⟨p, w⟩ : Held Pipeline σ) = r at h ⊢
  cases h with
  | unanswered written =>
    obtain ⟨n, w', hok⟩ := v.written w
    rw [hok] at written
    cases written
  | healthy => exact .ok (Pipeline.cleared_closed _ _)
  | @notRestarted _ f _ w₁ _ _ _ restart =>
    obtain ⟨w', hok⟩ := v.restart f p.transfer w₁
    rw [hok] at restart
    cases restart
  | restarted => exact .ok (Pipeline.cleared_closed _ _)

end Unfailing

/-- Over a sampler that does not fail, every tick returns. -/
theorem ends_watch_unfailing (v : Unfailing σ) {h : Reporting O I σ}
    (hp : h.own.analog.Cleared) :
    Attempt.Ends (fun _ w => w.own.analog.Cleared) (fun _ => False) (watch h) := by
  have view : View fun w : Held TelemetryLog (Observed σ) => w.world.world :=
    ⟨fun _ => rfl, fun _ => rfl, fun _ _ => rfl, fun _ => rfl, fun _ _ => rfl, fun _ _ => rfl,
      fun _ => rfl, fun _ => rfl⟩
  have htick := leads_tick (O := O) (I := I) (E := fun _ => False) h.world.own
    fun t _ p hp =>
      (((v.of_view view).acquire hp.1 p.world).and (Silent.keeps_acquire t p hp.2)).imp
        (fun _ _ hend => hend) fun _ hend => hend.1
  exact (htick (observed h) ⟨hp, rfl, rfl⟩).imp (fun _ _ hr => hr.1) fun _ he => he

theorem length_completed_replicate (v : Unfailing σ) (n : Nat) {h : Reporting O I σ}
    (hp : h.own.analog.Cleared) : (completed (ticks (.replicate n id) h)).length = n := by
  induction n generalizing h with
  | zero => rfl
  | succ n ih =>
    have hends := ends_watch_unfailing v (h := between id h) hp
    have hafter := (own_runOn_tick (between id h)).1
    rw [List.replicate_succ, ticks]
    rcases hw : watch (between id h) with ⟨_ | r, w⟩ <;> rw [hw] at hends hafter
    · cases hends with | error h => exact h.elim
    · have hcleared : (tick.runOn (between id h)).2.own.analog.Cleared := by
        rw [hafter]
        cases hends with | ok h => exact h
      have hlater := ih hcleared
      simpa [completed] using hlater

/-- The board's parts on a machine at rest, where nothing is asked for and nothing happens. -/
def atRest : Held (Block Pin Pin) (Held AdcDma Machine) where
  own :=
    { digital :=
        { outputs := Firmware.outputPins.map fun gpio => { gpio, function := some .output }
          inputs := Firmware.inputPins.map fun gpio => { gpio, function := some .input }
          applied := 0 }
      analog := { ring := Chip.ringBase } }
  world := ⟨⟨true, false, channelInputs⟩, {}⟩

theorem not_cadent_of_wrap {n : Nat} (hn : 4294967296 ≤ n) :
    ¬Cadent (completed (ticks (.replicate n id) ⟨atRest.own, ⟨{}, atRest.world⟩⟩)) := by
  have v : Unfailing (Held AdcDma Machine) :=
    ⟨fun _ => ⟨_, _, rfl⟩, fun _ => ⟨_, rfl⟩, fun _ _ => ⟨_, rfl⟩, fun _ => ⟨_, rfl⟩⟩
  have hcleared : atRest.own.analog.Cleared := (Pipeline.ready_new Chip.ringBase).cleared
  have hlength := length_completed_replicate v n (h := ⟨atRest.own, ⟨{}, atRest.world⟩⟩) hcleared
  rw [cadent_iff (lines_completed _ _), hlength]
  exact Nat.not_lt.2 hn

/-- **The cadence is lost at the wrap**: on a board at rest, in a run of 2³² ticks, the last tick
has a line, 296 ticks after the one before. -/
theorem wrap_not_cadent :
    ¬Cadent (completed
      (ticks (.replicate 4294967296 id) ⟨atRest.own, ⟨{}, atRest.world⟩⟩)) :=
  not_cadent_of_wrap (Nat.le_refl _)

end Block

end SensorBoard
