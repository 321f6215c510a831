import SensorBoard.Firmware.Program
import SensorBoard.Proofs.Exposed
import SensorBoard.Proofs.History

/-!
# No edge is lost

Wires change whenever they like, also between two steps of the edge handler. The handler clears the
latched edges before it reads the levels. So a change before the read is seen by it, and one after
the read is latched, and there is none that is neither.

* `EdgeLatch.Current`: a mask is right about every line that has nothing pending. From the read on
  this holds of the levels that were read, whatever the wires do (`Current.act`).
* `Exposed.Taken`: the same inside the handler, between the read and the store.
* `edgeInterrupt_heard`: a run of the handler leaves the capture right, whatever it found.
* `edgeInterrupt_still`: if nothing happens during it, it also leaves no edge pending.
* `Machine.run_heard`: **whenever no handler runs, a line without a pending edge has its level in
  the capture**, after changes and handlers in any order.
-/

namespace SensorBoard

/-! ## Pending edges -/

namespace Chip

/-- An edge of the pin is latched and has not been acknowledged. -/
def Pending (c : Chip) (g : Gpio) : Prop := c.latched.get g &&& 0b1100#4 ≠ 0#4

instance (c : Chip) (g : Gpio) : Decidable (c.Pending g) := inferInstanceAs (Decidable (_ ≠ _))

variable {c : Chip} {g : Gpio}

theorem get_latched_setWires (levels : BitVec 32) : (c.setWires levels).latched.get g =
    c.latched.get g ||| changeEvents (c.wires.getLsbD g) (levels.getLsbD g) :=
  latched_setWires c levels g

/-- Setting the wires takes no pending edge away. -/
theorem Pending.setWires (h : c.Pending g) (levels : BitVec 32) :
    (c.setWires levels).Pending g := by
  have hor : ∀ x y : BitVec 4, x &&& 0b1100#4 ≠ 0#4 → (x ||| y) &&& 0b1100#4 ≠ 0#4 := by decide
  rw [Pending, get_latched_setWires]
  exact hor _ _ h

/-- A change of level in either direction is pending. -/
theorem pending_setWires {levels : BitVec 32} (h : c.wires.getLsbD g ≠ levels.getLsbD g) :
    (c.setWires levels).Pending g := by
  have hfall : ∀ x : BitVec 4, (x ||| 0b0100) &&& 0b1100#4 ≠ 0#4 := by decide
  have hrise : ∀ x : BitVec 4, (x ||| 0b1000) &&& 0b1100#4 ≠ 0#4 := by decide
  rw [Pending, get_latched_setWires]
  cases hb : c.wires.getLsbD g <;> cases ha : levels.getLsbD g
  case false.true => exact hrise _
  case true.false => exact hfall _
  all_goals exact absurd (hb.trans ha.symm) h

theorem get_latched_clearEvents (word : Nat) (bits : UInt32) :
    (c.clearEvents word bits).latched.get g =
      if g.val / 8 = word then
        c.latched.get g &&& ~~~(bits.toBitVec >>> (4 * (g.val % 8))).setWidth 4
      else c.latched.get g :=
  latched_clearEvents c word bits g

/-- Clearing events makes nothing pending. -/
theorem not_pending_clearEvents_of (h : ¬c.Pending g) (word : Nat) (bits : UInt32) :
    ¬(c.clearEvents word bits).Pending g := by
  have hand : ∀ x y : BitVec 4, ¬x &&& 0b1100#4 ≠ 0#4 → ¬(x &&& y) &&& 0b1100#4 ≠ 0#4 := by decide
  rw [Pending, get_latched_clearEvents]
  split
  · exact hand _ _ h
  · exact h

/-- A pin whose edges are acknowledged has none pending. -/
theorem not_pending_clearEvents (c : Chip) (g : Gpio) :
    ¬(c.clearEvents (g.val / 8) (EdgeLatch.edgeBits g)).Pending g := by
  have hbits : ∀ g : Gpio,
      ((EdgeLatch.edgeBits g).toBitVec >>> (4 * (g.val % 8))).setWidth 4 = 0b1100#4 := by decide
  have hclear : ∀ x : BitVec 4, ¬(x &&& ~~~0b1100#4) &&& 0b1100#4 ≠ 0#4 := by decide
  rw [Pending, get_latched_clearEvents, if_pos rfl, hbits]
  exact hclear _

theorem convert_pins (c : Chip) (samples : List Int16) :
    (c.convert samples).wires = c.wires ∧ (c.convert samples).latched = c.latched := by
  induction samples generalizing c with
  | nil => exact ⟨rfl, rfl⟩
  | cons s samples ih =>
    have hone : (c.convertOne s).wires = c.wires ∧ (c.convertOne s).latched = c.latched := by
      unfold convertOne
      split <;> exact ⟨rfl, rfl⟩
    have htail := ih (c.convertOne s)
    exact ⟨htail.1.trans hone.1, htail.2.trans hone.2⟩

end Chip

/-! ## Levels that are right -/

namespace EdgeLatch

/-- A mask has the level of every input line whose pin has no edge pending. -/
def Current (e : EdgeLatch) (mask : LineMask) (c : Chip) : Prop :=
  ∀ l, ¬c.Pending (e.gpios.get l) → mask.has l = c.wires.getLsbD (e.gpios.get l)

variable {e : EdgeLatch} {mask : LineMask}

theorem Current.of_pins {c c' : Chip} (h : e.Current mask c) (hw : c'.wires = c.wires)
    (hl : c'.latched = c.latched) : e.Current mask c' := by
  intro l hp
  rw [Chip.Pending, hl] at hp
  rw [hw]
  exact h l hp

/-- A wire that changes becomes pending; all others keep their level. -/
theorem Current.setWires {c : Chip} (h : e.Current mask c) (levels : BitVec 32) :
    e.Current mask (c.setWires levels) := by
  intro l hp
  have hbefore : ¬c.Pending (e.gpios.get l) := fun hc => hp (hc.setWires levels)
  have hsame : c.wires.getLsbD (e.gpios.get l) = levels.getLsbD (e.gpios.get l) :=
    Decidable.byContradiction fun hne => hp (Chip.pending_setWires hne)
  exact (h l hbefore).trans hsame

/-- **Whatever happens to the machine, levels that were right stay right** of the lines that have
nothing pending. -/
theorem Current.act {m : Machine} (h : e.Current mask m.chip) (a : Machine.Action) :
    e.Current mask (m.act a).chip := by
  cases a with
  | wires levels among => exact h.setWires _
  | advance | skew | setRemaining | setAbortPolls | request => exact h.of_pins rfl rfl
  | convert samples =>
    obtain ⟨hw, hl⟩ := m.chip.convert_pins samples
    exact h.of_pins hw hl

/-- The levels that are read are those of the pins at the read. -/
theorem has_levels {σ : Type} [Device σ] (e : EdgeLatch) (w : σ) (l : Line) :
    (e.levels.runOn w).1.has l =
      ((Device.pinLevels : Step σ (BitVec 32)).runOn w).1.getLsbD (e.gpios.get l) := by
  generalize hraw : (Device.pinLevels : Step σ (BitVec 32)).runOn w = r
  have hlevels : (e.levels.runOn w).1 = Line.all.foldl
      (fun m l => m ||| (((r.1 >>> (e.gpios.get l).val) &&& 1).setWidth 4 <<< l.index)) 0 := by
    rw [← hraw]
    rfl
  have hbit : ∀ (i : Fin 30) (l l' : Line),
      LineMask.has (((r.1 >>> i.val) &&& 1).setWidth 4 <<< l.index) l' =
        (decide (l = l') && r.1.getLsbD i) := by
    intro i l l'
    cases l <;> cases l' <;> simp [LineMask.has, Line.index]
  rw [hlevels, Line.all]
  simp only [List.foldl, LineMask.has_or, LineMask.has_zero, hbit]
  cases l <;> simp

end EdgeLatch

/-- The capture has the level of every input line that has no edge pending. -/
def EdgeSource.Heard (e : EdgeSource) (m : Machine) : Prop :=
  e.latch.Current m.capture.levels m.chip

theorem EdgeSource.Heard.act {e : EdgeSource} {m : Machine} (h : e.Heard m) (a : Machine.Action) :
    e.Heard (m.act a) := by
  have hcurrent : e.latch.Current m.capture.levels (m.act a).chip := EdgeLatch.Current.act h a
  cases a <;> exact hcurrent

/-! ## Inside the handler -/

namespace Exposed

variable {e : EdgeSource} {mask : LineMask} {x : Exposed}

/-- The handler of a source has read some levels, and they are still right. -/
structure Taken (e : EdgeSource) (mask : LineMask) (x : Exposed) : Prop where
  installed : x.machine.edgeSource = some e
  current : e.latch.Current mask x.machine.chip

theorem Taken.pass (h : Taken e mask x) : Taken e mask x.pass :=
  ⟨x.memory_pass.1.trans h.installed,
    pass_keeps (P := fun m => e.latch.Current mask m.chip) (fun _ a hm => hm.act a) h.current⟩

theorem edgeSource_perform (c : Command) (x : Exposed) :
    ((perform c : Step Exposed Unit).runOn x).2.machine.edgeSource = x.machine.edgeSource := by
  show ((amid (perform c)).runOn x).2.machine.edgeSource = x.machine.edgeSource
  rw [runOn_amid]
  exact x.memory_pass.1

theorem edgeSource_acknowledge (l : EdgeLatch) (x : Exposed) :
    (l.acknowledge.runOn x).2.machine.edgeSource = x.machine.edgeSource := by
  unfold EdgeLatch.acknowledge
  induction l.gpios.toList generalizing x with
  | nil => rfl
  | cons g gs ih =>
    have hcons : ∀ f : Gpio → Step Exposed PUnit, (g :: gs).forM f = f g >>= fun _ => gs.forM f :=
      fun f => rfl
    rw [hcons, Step.runOn_bind, ih, edgeSource_perform]

theorem taken_levels (h : x.machine.edgeSource = some e) :
    Taken e (e.latch.levels.runOn x).1 (e.latch.levels.runOn x).2 where
  installed := x.memory_pass.1.trans h
  -- at the read the levels are right of every line, pending or not
  current l _ := e.latch.has_levels x l

/-- What is true whatever happens, and does not depend on the capture, is true after a snapshot is
stored. -/
theorem inputEdge_keeps {I : Exposed → Prop} (hpass : ∀ x, I x → I x.pass)
    (hstore : ∀ (x : Exposed) (c : Capture), I x →
      I { x with machine := { x.machine with capture := c } })
    (h : I x) (levels : UInt8) (counter : CaptureCounter) :
    I ((SharedCapture.inputEdge levels counter.now).runOn x).2 := by
  let loaded : Exposed := x.pass.pass
  let observed : Capture × Exposed :=
    (loaded.machine.capture.observe levels counter.now).runOn loaded
  have hobserved : I observed.2 := by
    have hloaded : I loaded := hpass _ (hpass _ h)
    have hnow : I (counter.now.runOn loaded).2 := hpass _ (hpass _ hloaded)
    show I ((loaded.machine.capture.observe levels counter.now).runOn loaded).2
    rw [Capture.runOn_observe]
    -- the counter is read only if the levels are new
    by_cases hsame : LineMask.ofByte levels = loaded.machine.capture.levels
    · rw [if_pos hsame]
      exact hloaded
    · rw [if_neg hsame]
      exact hnow
  exact hpass _ (hstore _ observed.1 (hpass _ hobserved))

/-- The snapshot is stored as it was read. -/
theorem levels_inputEdge (mask : LineMask) (counter : CaptureCounter) (x : Exposed) :
    ((SharedCapture.inputEdge mask.toByte counter.now).runOn x).2.machine.capture.levels =
      mask := by
  let loaded : Exposed := x.pass.pass
  let observed : Capture × Exposed :=
    (loaded.machine.capture.observe mask.toByte counter.now).runOn loaded
  let stored : Exposed :=
    { observed.2.pass with machine := { observed.2.pass.machine with capture := observed.1 } }
  have hobserved : observed.1.levels = mask := by
    show ((loaded.machine.capture.observe mask.toByte counter.now).runOn loaded).1.levels = mask
    rw [Capture.runOn_observe, Capture.after_snapshot, LineMask.ofByte_toByte]
    rfl
  have hstored : stored.pass.machine.capture = observed.1 := stored.memory_pass.2
  show stored.pass.machine.capture.levels = mask
  rw [hstored, hobserved]

/-- The handler, once it has found its source. -/
theorem runOn_edgeInterrupt (h : x.machine.edgeSource = some e) :
    let acknowledged := (e.latch.acknowledge.runOn x.pass.pass).2
    let read := e.latch.levels.runOn acknowledged
    (Firmware.edgeInterrupt.runOn x).2 =
      ((SharedCapture.inputEdge read.1.toByte e.counter.now).runOn read.2).2.pass := by
  have hentered : x.pass.pass.machine.edgeSource = some e :=
    x.pass.memory_pass.1.trans (x.memory_pass.1.trans h)
  have henter : (CriticalSection.enter : Step Exposed Unit).runOn x = ((), x.pass) := rfl
  have hfound : (Statics.edgeSource : Step Exposed (Option EdgeSource)).runOn x.pass =
      (some e, x.pass.pass) := Prod.ext hentered rfl
  unfold Firmware.edgeInterrupt
  simp only [Step.runOn_atomically, henter, Step.runOn_bind, hfound]
  rfl

/-- The handler takes the levels and stores them; it needs to know nothing of what it finds. -/
theorem edgeInterrupt_heard (h : x.machine.edgeSource = some e) :
    (Firmware.edgeInterrupt.runOn x).2.machine.edgeSource = some e ∧
      e.Heard (Firmware.edgeInterrupt.runOn x).2.machine := by
  let acknowledged : Exposed := (e.latch.acknowledge.runOn x.pass.pass).2
  let read : LineMask × Exposed := e.latch.levels.runOn acknowledged
  let stored : Exposed := ((SharedCapture.inputEdge read.1.toByte e.counter.now).runOn read.2).2
  have hentered : x.pass.pass.machine.edgeSource = some e :=
    x.pass.memory_pass.1.trans (x.memory_pass.1.trans h)
  -- whatever was acknowledged, the levels are read after it
  have hread : Taken e read.1 read.2 :=
    taken_levels ((edgeSource_acknowledge e.latch x.pass.pass).trans hentered)
  have hstored : Taken e read.1 stored :=
    inputEdge_keeps (fun _ h => h.pass) (fun _ _ h => ⟨h.installed, h.current⟩) hread _ _
  have hshown : stored.pass.machine.capture.levels = read.1 := by
    rw [stored.memory_pass.2]
    exact levels_inputEdge read.1 e.counter read.2
  rw [runOn_edgeInterrupt h]
  refine ⟨hstored.pass.installed, ?_⟩
  rw [EdgeSource.Heard, hshown]
  exact hstored.pass.current

/-! ## A handler that is left alone -/

/-- Nothing more happens, and the chip stands. -/
structure Still (c : Chip) (x : Exposed) : Prop where
  coming : x.coming = []
  chip : x.machine.chip = c

theorem Still.pass {c : Chip} (h : Still c x) : Still c x.pass := by
  obtain ⟨m, coming⟩ := x
  obtain ⟨rfl, hc⟩ := h
  exact ⟨rfl, hc⟩

theorem acknowledge_still {c : Chip} (h : Still c x) (gs : List Gpio) :
    ∃ c', Still c' ((gs.forM fun g => (perform (.clearEvents (g.val / 8) (EdgeLatch.edgeBits g)) :
        Step Exposed Unit)).runOn x).2 ∧
      (∀ g, ¬c.Pending g → ¬c'.Pending g) ∧ ∀ g ∈ gs, ¬c'.Pending g := by
  induction gs generalizing x c with
  | nil => exact ⟨c, h, fun _ hg => hg, by simp⟩
  | cons g gs ih =>
    let cleared : Chip := c.clearEvents (g.val / 8) (EdgeLatch.edgeBits g)
    have hstep : Still cleared ((perform (.clearEvents (g.val / 8) (EdgeLatch.edgeBits g)) :
        Step Exposed Unit).runOn x).2 := by
      obtain ⟨hcoming, hchip⟩ := h.pass
      refine ⟨hcoming, ?_⟩
      show x.pass.machine.chip.clearEvents _ _ = _
      rw [hchip]
    obtain ⟨c', hc', hkeep, hgone⟩ := ih hstep
    refine ⟨c', hc', fun g' hg' => hkeep g' (Chip.not_pending_clearEvents_of hg' _ _), ?_⟩
    intro g' hg'
    rcases List.mem_cons.1 hg' with rfl | hg'
    · exact hkeep _ (Chip.not_pending_clearEvents c _)
    · exact hgone g' hg'

/-- **A handler that is left alone leaves nothing pending.** -/
theorem edgeInterrupt_still {c : Chip} (hin : x.machine.edgeSource = some e) (h : Still c x)
    (l : Line) :
    ¬(Firmware.edgeInterrupt.runOn x).2.machine.chip.Pending (e.latch.gpios.get l) := by
  obtain ⟨c', hc', -, hgone⟩ := acknowledge_still h.pass.pass e.latch.gpios.toList
  have hmem : e.latch.gpios.get l ∈ e.latch.gpios.toList := by
    rw [PerLine.toList_eq_map]
    exact List.mem_map_of_mem l.mem_all
  have hread : Still c' (e.latch.levels.runOn (e.latch.acknowledge.runOn x.pass.pass).2).2 :=
    hc'.pass
  have hstored := inputEdge_keeps (I := Still c') (fun _ h => h.pass)
    (fun _ _ h => ⟨h.coming, h.chip⟩) hread
  rw [runOn_edgeInterrupt hin, (hstored _ e.counter).pass.chip]
  exact hgone _ hmem

end Exposed

/-! ## Runs -/

namespace Machine

/-- Something that happens to the machine, the edge handler included. -/
inductive Happening
  | action (a : Action)
  /-- The edge handler runs; what happens meanwhile is listed for each of its operations. -/
  | handler (coming : List (List Action))

/-- The machine after something has happened to it. -/
def after (m : Machine) : Happening → Machine
  | .action a => m.act a
  | .handler coming => (Firmware.edgeInterrupt.runOn (⟨m, coming⟩ : Exposed)).2.machine

variable {m : Machine} {e : EdgeSource}

theorem heard_after (hin : m.edgeSource = some e) (h : e.Heard m) (s : Happening) :
    (m.after s).edgeSource = some e ∧ e.Heard (m.after s) := by
  cases s with
  | action a => exact ⟨by cases a <;> exact hin, h.act a⟩
  | handler coming => exact Exposed.edgeInterrupt_heard (x := ⟨m, coming⟩) hin

/-- **No edge is lost.** Once the source of edges is installed and the capture is right about every
line without a pending edge, it is so after any changes and handlers, however they interleave. And
edges do not stay pending: a handler that is left alone leaves none. -/
theorem run_heard (hin : m.edgeSource = some e) (h : e.Heard m) (ss : List Happening) :
    e.Heard (ss.foldl after m) ∧
      ∀ l, ¬((ss.foldl after m).after (.handler [])).chip.Pending (e.latch.gpios.get l) := by
  induction ss generalizing m with
  | nil => exact ⟨h, Exposed.edgeInterrupt_still (x := ⟨m, []⟩) hin ⟨rfl, rfl⟩⟩
  | cons s ss ih =>
    obtain ⟨hin', h'⟩ := heard_after hin h s
    exact ih hin' h'

/-- A line that rises and is taken, and falls again right after the levels were read. -/
def blip : List Happening :=
  [.action (.wires 0x800 0x800), .handler (.replicate 7 [] ++ [[.wires 0 0x800]])]

/-- The capture then still has the line high, and the fall is pending; all other lines are as the
pins are. -/
theorem run_heard_blip :
    let e : EdgeSource := ⟨⟨⟨10, 11, 12, 13⟩⟩, ⟨0⟩⟩
    let m : Machine := blip.foldl after { edgeSource := some e }
    e.Heard m ∧ (∀ l, ¬(m.after (.handler [])).chip.Pending (e.latch.gpios.get l)) ∧
      m.capture.levels = 0b0010 ∧ m.chip.wires = 0 ∧ m.chip.Pending 11 := by
  have hstart : ∀ e : EdgeSource, e.Heard { edgeSource := some e } := by
    intro e l _
    show (0 : LineMask).has l = (0 : BitVec 32).getLsbD (e.latch.gpios.get l)
    rw [LineMask.has_zero]
    simp
  obtain ⟨hheard, hstill⟩ := run_heard rfl (hstart ⟨⟨⟨10, 11, 12, 13⟩⟩, ⟨0⟩⟩) blip
  exact ⟨hheard, hstill, by decide +kernel, by decide +kernel, by decide +kernel⟩

end Machine

end SensorBoard
