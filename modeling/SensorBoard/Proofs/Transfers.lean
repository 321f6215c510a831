import SensorBoard.Proofs.Conform
import SensorBoard.Proofs.Ownership

/-!
# One transfer after another

A recovery replaces the transfer in progress, and conversions do not wait for it: they end while
the ring is read, between two messages, up to the moment at which the converter is halted. What
ended before a transfer must not be taken for a part of it.

* `Front.Extends`: what has ended and what was stored stays on record.
* `SharedRing`: a world in which the program and the channel share the ring.
* `Marked`: a world that notes where the histories were each time the channel was started;
  `Marked.view_world` says that the notes change nothing.
* `Passes`: nothing but conversions happens between two moments.
* `restart_rearms`: **a restart puts a new mark behind all that has ended**, and the samples that
  follow start at the first slot and the first channel.
-/

namespace SensorBoard

open Front (Mark Armed InStep ringTransfer)

variable {σ : Type}

namespace Front

variable {f g k : Front} {m : Mark}

/-! ## Histories only grow -/

/-- A later moment of a front end. -/
structure Extends (f g : Front) : Prop where
  stored : f.stored <+: g.stored
  ended : f.ended <+: g.ended

theorem Extends.refl (f : Front) : f.Extends f := ⟨List.prefix_rfl, List.prefix_rfl⟩

theorem Extends.trans (h : f.Extends g) (h' : g.Extends k) : f.Extends k :=
  ⟨h.stored.trans h'.stored, h.ended.trans h'.ended⟩

theorem prefix_drop {α : Type} {l l' : List α} (h : l <+: l') (n : Nat) :
    l.drop n <+: l'.drop n := by
  obtain ⟨t, rfl⟩ := h
  exact ⟨t.drop (n - l.length), List.drop_append.symm⟩

theorem getElem?_of_prefix {α : Type} {l l' : List α} (h : l <+: l') {i : Nat} {x : α}
    (hx : l[i]? = some x) : l'[i]? = some x := by
  obtain ⟨t, rfl⟩ := h
  rw [List.getElem?_append_left (List.getElem?_eq_some_iff.1 hx).1, hx]

theorem Extends.storedSince (h : f.Extends g) (m : Mark) : f.storedSince m <+: g.storedSince m :=
  prefix_drop h.stored m.stored

theorem Extends.endedSince (h : f.Extends g) (m : Mark) : f.endedSince m <+: g.endedSince m :=
  prefix_drop h.ended m.ended

theorem extends_storeAll (f : Front) (cs : List Conversion) : f.Extends (f.storeAll cs) := by
  induction cs generalizing f with
  | nil => exact ⟨List.prefix_rfl, List.prefix_rfl⟩
  | cons c cs ih =>
    rw [storeAll]
    split
    · have hstore : f.Extends (f.store c) := ⟨List.prefix_append _ _, List.prefix_rfl⟩
      exact hstore.trans (ih _)
    · exact ⟨List.prefix_rfl, List.prefix_rfl⟩

theorem extends_land (f : Front) (s : Int16) : f.Extends (f.land s) := by
  have hfinish : f.Extends (f.finish s) := ⟨List.prefix_rfl, List.prefix_append _ _⟩
  exact hfinish.trans (extends_storeAll _ _)

theorem extends_convertAll (f : Front) (ss : List Int16) : f.Extends (f.convertAll ss) := by
  induction ss generalizing f with
  | nil => exact .refl f
  | cons s ss ih =>
    refine Extends.trans ?_ (ih (f.convert s))
    unfold convert
    split
    · exact extends_land f s
    split
    · have hstill : f.Extends { f with landing := false } := ⟨List.prefix_rfl, List.prefix_rfl⟩
      exact hstill.trans (extends_land _ s)
    · exact .refl f

/-- What a command changes at once is not in the histories. -/
theorem extends_effect (f : Front) (c : Command) : f.Extends (f.effect c) := by
  cases c <;> exact ⟨List.prefix_rfl, List.prefix_rfl⟩

theorem extends_apply (f : Front) (c : Command) : f.Extends (f.apply c) :=
  (extends_effect f c).trans (extends_storeAll _ _)

theorem convertAll_append (f : Front) (ss ts : List Int16) :
    f.convertAll (ss ++ ts) = (f.convertAll ss).convertAll ts :=
  List.foldl_append

/-- **Conversions that end when the count has run out leave the ring as it is.** -/
theorem convertAll_runOut (hr : f.dma.remaining = 0) (ss : List Int16) :
    (f.convertAll ss).dma = f.dma ∧ (f.convertAll ss).memory = f.memory ∧
      (f.convertAll ss).stored = f.stored := by
  have hland {g : Front} (hg : g.dma.remaining = 0) (s : Int16) :
      (g.land s).dma = g.dma ∧ (g.land s).memory = g.memory ∧ (g.land s).stored = g.stored := by
    have hmoves : ¬g.Moves := by
      rintro ⟨-, -, -, hpos⟩
      rw [hg] at hpos
      exact absurd hpos (by decide)
    rw [land_of_not_moves hmoves]
    exact ⟨rfl, rfl, rfl⟩
  induction ss generalizing f with
  | nil => exact ⟨rfl, rfl, rfl⟩
  | cons s ss ih =>
    have hone : (f.convert s).dma = f.dma ∧ (f.convert s).memory = f.memory ∧
        (f.convert s).stored = f.stored := by
      unfold convert
      split
      · exact hland hr s
      split
      · exact hland (g := { f with landing := false }) hr s
      · exact ⟨rfl, rfl, rfl⟩
    obtain ⟨hdma, hmem, hstored⟩ := hone
    obtain ⟨h₁, h₂, h₃⟩ := ih (f := f.convert s) (by rw [hdma, hr])
    exact ⟨h₁.trans hdma, h₂.trans hmem, h₃.trans hstored⟩

end Front

/-! ## A ring that is shared -/

/-- A world whose program reads the ring from the memory that the channel writes. Any number of
conversions may end before each operation. -/
class SharedRing (σ : Type) [Device σ] [Converting σ] [Statics σ] [Logger σ]
    [CriticalSection σ] where
  /-- The address of the ring. -/
  base : UInt32
  aligned : base.toNat % 512 = 0
  front_ringSample (i : UInt64) (w : σ) :
    ∃ ss, front ((Statics.ringSample i).runOn w).2 = (front w).convertAll ss ∧
      ((Statics.ringSample i).runOn w).1 = (((front w).convertAll ss).ringAt base).read i
  front_log (m : Message) (w : σ) :
    ∃ ss, front ((log m).runOn w).2 = (front w).convertAll ss
  front_enter (w : σ) :
    ∃ ss, front (CriticalSection.enter.runOn w).2 = (front w).convertAll ss
  front_leave (w : σ) :
    ∃ ss, front (CriticalSection.leave.runOn w).2 = (front w).convertAll ss

/-! ## Notes of the starts -/

/-- Whether a command starts the channel. -/
def Command.starts : Command → Bool
  | .dmaStart _ => true
  | _ => false

/-- A world with a note of where the histories were each time the channel was started. -/
structure Marked (σ : Type) where
  world : σ
  marks : List Mark := []

namespace Marked

variable {α : Type}

/-- The mark of the transfer in progress. -/
def mark (g : Marked σ) : Option Mark := g.marks.getLast?

theorem mark_of_concat {g : Marked σ} {ms : List Mark} {m : Mark} (h : g.marks = ms ++ [m]) :
    g.mark = some m := by
  rw [mark, h, List.getLast?_concat]

/-- What starts no channel is not noted. -/
def unnoted (x : Step σ α) : Step (Marked σ) α := fun g =>
  let (a, w) := x.runOn g.world
  (a, { g with world := w })

variable [Device σ] [Converting σ]

instance : Device (Marked σ) where
  perform c := fun g =>
    let w := ((perform c).runOn g.world).2
    ((), ⟨w, if c.starts then g.marks ++ [(front w).mark] else g.marks⟩)
  takePeripherals := unnoted Device.takePeripherals
  clocksRun := unnoted Device.clocksRun
  pinHigh g := unnoted (Device.pinHigh g)
  pinLevels := unnoted Device.pinLevels
  timer := unnoted Device.timer
  slice := unnoted Device.slice
  dmaRemaining := unnoted Device.dmaRemaining
  awaitAbort := unnoted Device.awaitAbort

instance [Statics σ] : Statics (Marked σ) where
  requested := unnoted Statics.requested
  takeRing := unnoted Statics.takeRing
  ringSample i := unnoted (Statics.ringSample i)
  edgeSource := unnoted Statics.edgeSource
  installEdgeSource e := unnoted (Statics.installEdgeSource e)

instance [Logger σ] : Logger (Marked σ) where
  log m := unnoted (log m)

instance [CriticalSection σ] : CriticalSection (Marked σ) where
  enter := unnoted CriticalSection.enter
  leave := unnoted CriticalSection.leave

instance : Converting (Marked σ) where
  front g := front g.world
  front_perform c hc g := Converting.front_perform c hc g.world
  front_awaitAbort g := Converting.front_awaitAbort g.world
  front_remaining g := Converting.front_remaining g.world

instance [Statics σ] [Logger σ] [CriticalSection σ] [SharedRing σ] : SharedRing (Marked σ) where
  base := SharedRing.base σ
  aligned := SharedRing.aligned
  front_ringSample i g := SharedRing.front_ringSample i g.world
  front_log m g := SharedRing.front_log m g.world
  front_enter g := SharedRing.front_enter g.world
  front_leave g := SharedRing.front_leave g.world

/-- **The notes change nothing**: an acquisition does the same with and without them. -/
theorem view_world [Statics σ] [Logger σ] [CriticalSection σ] :
    View (Held.view Marked.world : Held AdcDma (Marked σ) → Held AdcDma σ) where
  written := by
    rintro ⟨⟨adc, fifo, inputs⟩, g⟩
    cases fifo <;> rfl
  halt := by
    rintro ⟨⟨adc, fifo, inputs⟩, g⟩
    cases fifo <;> rfl
  configure t := by
    rintro ⟨⟨adc, fifo, inputs⟩, g⟩
    cases adc <;> cases fifo <;> rfl
  resume := by
    rintro ⟨⟨adc, fifo, inputs⟩, g⟩
    cases fifo <;> rfl
  sampleAt _ _ := rfl
  log _ _ := rfl
  enter _ := rfl
  leave _ := rfl

end Marked

/-- The driver of the converter beside a world that is noted. -/
abbrev Driven (σ : Type) : Type := Held AdcDma (Marked σ)

namespace Driven

variable [Device σ] [Converting σ]

/-- The samples that were stored since the channel was last started. -/
def stored (u : Driven σ) : List Stored :=
  match u.world.mark with
  | none => []
  | some m => (front u.world).storedSince m

/-- Nothing happens between two moments but that conversions end. -/
structure Passes (u v : Driven σ) : Prop where
  own : v.own = u.own
  marks : v.world.marks = u.world.marks
  converted : ∃ ss, front v.world = (front u.world).convertAll ss

namespace Passes

variable {u v x : Driven σ}

theorem refl (u : Driven σ) : Passes u u := ⟨rfl, rfl, [], rfl⟩

theorem trans (h : Passes u v) (h' : Passes v x) : Passes u x := by
  obtain ⟨ss, hss⟩ := h.converted
  obtain ⟨ts, hts⟩ := h'.converted
  refine ⟨h'.own.trans h.own, h'.marks.trans h.marks, ss ++ ts, ?_⟩
  rw [hts, hss, Front.convertAll_append]

theorem mark (h : Passes u v) : v.world.mark = u.world.mark := congrArg List.getLast? h.marks

theorem grows (h : Passes u v) : (front u.world).Extends (front v.world) := by
  obtain ⟨ss, hss⟩ := h.converted
  rw [hss]
  exact Front.extends_convertAll _ ss

theorem invariant {base : UInt32} (hb : base.toNat % 512 = 0) {stage : AdcDma.Stage}
    {mark : Option Mark} (h : Passes u v) (hu : AdcDma.Invariant base stage mark u) :
    AdcDma.Invariant base stage mark v := by
  obtain ⟨a, g⟩ := u
  obtain ⟨b, g'⟩ := v
  obtain ⟨ss, hss⟩ := h.converted
  obtain rfl : b = a := h.own
  exact hu.conversions hb ss hss

theorem written (u : Driven σ) : Passes u (AdcDma.written.runOn u).2 := by
  obtain ⟨⟨adc, fifo, inputs⟩, g⟩ := u
  cases fifo with
  | false => exact .refl _
  | true =>
    obtain ⟨ss, hss, -⟩ := Converting.front_remaining g.world
    exact ⟨rfl, rfl, ss, hss⟩

variable [Statics σ] [Logger σ] [CriticalSection σ] [SharedRing σ]

theorem log (m : Message) (u : Driven σ) : Passes u ((SensorBoard.log m).runOn u).2 :=
  ⟨rfl, rfl, SharedRing.front_log m u.world⟩

theorem enter (u : Driven σ) : Passes u (CriticalSection.enter.runOn u).2 :=
  ⟨rfl, rfl, SharedRing.front_enter u.world⟩

theorem leave (u : Driven σ) : Passes u (CriticalSection.leave.runOn u).2 :=
  ⟨rfl, rfl, SharedRing.front_leave u.world⟩

theorem sampleAt (i : UInt64) (u : Driven σ) :
    let r := (Sampler.sampleAt i).runOn u
    Passes u r.2 ∧ r.1 = ((front r.2.world).ringAt (SharedRing.base σ)).read i := by
  obtain ⟨ss, hss, hread⟩ := SharedRing.front_ringSample i u.world
  refine ⟨⟨rfl, rfl, ss, hss⟩, ?_⟩
  rw [← hss] at hread
  exact hread

end Passes

end Driven

/-! ## Commands and the histories -/

section Grows

variable [Device σ] [Converting σ]

theorem grows_perform {c : Command} (hc : Front.Describes c) (w : σ) :
    (front w).Extends (front ((perform c).runOn w).2) := by
  obtain ⟨ss, hss⟩ := Converting.front_perform c hc w
  rw [hss]
  exact (Front.extends_convertAll _ ss).trans (Front.extends_apply _ c)

theorem grows_awaitAbort (w : σ) : (front w).Extends (front (Device.awaitAbort.runOn w).2) := by
  obtain ⟨ss, hss⟩ := Converting.front_awaitAbort w
  have haborted (f : Front) : f.Extends f.aborted := ⟨List.prefix_rfl, List.prefix_rfl⟩
  rw [hss]
  exact (Front.extends_convertAll _ ss).trans (haborted _)

theorem grows_forM {cs : List Command} (hcs : ∀ c ∈ cs, Front.Describes c) (w : σ) :
    (front w).Extends (front ((cs.forM (perform (σ := σ))).runOn w).2) := by
  induction cs generalizing w with
  | nil => exact .refl _
  | cons c cs ih =>
    obtain ⟨hc, hcs⟩ := List.forall_mem_cons.1 hcs
    exact (grows_perform hc w).trans (ih hcs _)

end Grows

namespace Front

/-- Right after its start a transfer has nothing behind its mark. -/
theorem Armed.mark_eq {base : UInt32} {m : Mark} {f : Front} (h : Armed base m f)
    (hs : f.storedSince m = []) : f.mark = m := by
  have hended : f.endedSince m = [] := by
    have hconv := h.filling.conversions
    rw [hs, List.map_nil, eq_comm, List.take_eq_nil_iff] at hconv
    rcases hconv with hzero | hnil
    · exact absurd hzero (by decide)
    · exact hnil
  have hstored := h.filling.marked
  have hmarked := h.turning.marked
  rw [storedSince, List.drop_eq_nil_iff] at hs
  rw [endedSince, List.drop_eq_nil_iff] at hended
  rw [mark, Nat.le_antisymm hs hstored, Nat.le_antisymm hended hmarked]

end Front

/-! ## A restart -/

namespace AdcDma

section

variable [Device σ] [Converting σ]

theorem marks_halt (u : Driven σ) : (halt.runOn u).2.world.marks = u.world.marks := by
  obtain ⟨⟨adc, fifo, inputs⟩, g⟩ := u
  cases fifo <;> rfl

theorem marks_resume (u : Driven σ) : (resume.runOn u).2.world.marks = u.world.marks := by
  obtain ⟨⟨adc, fifo, inputs⟩, g⟩ := u
  cases fifo <;> rfl

/-- A set-up of a transfer notes the start of the channel. -/
theorem marks_configure (t : Transfer) (u : Driven σ) (h : u.own.adc = !u.own.fifo) :
    let r := ((configure t).runOn u).2
    r.world.marks = u.world.marks ++ [(front r.world).mark] := by
  obtain ⟨⟨adc, fifo, inputs⟩, g⟩ := u
  obtain rfl : adc = !fifo := h
  cases fifo <;> rfl

theorem grows_halt (u : Driven σ) : (front u.world).Extends (front (halt.runOn u).2.world) := by
  obtain ⟨⟨adc, fifo, inputs⟩, g⟩ := u
  cases fifo with
  | false => exact .refl _
  | true =>
    exact ((grows_perform (c := .adcPause) trivial g).trans
      (grows_perform (c := .delayCycles conversionCycles) trivial _)).trans
        (grows_perform (c := .adcClear) trivial _)

theorem grows_resume (u : Driven σ) : (front u.world).Extends (front (resume.runOn u).2.world) := by
  obtain ⟨⟨adc, fifo, inputs⟩, g⟩ := u
  cases fifo with
  | false => exact .refl _
  | true => exact grows_perform (c := .adcResume) trivial g

theorem grows_configure (t : Transfer) (u : Driven σ) (h : u.own.adc = !u.own.fifo) :
    (front u.world).Extends (front ((configure t).runOn u).2.world) := by
  obtain ⟨a, g⟩ := u
  have hcs : ∀ c ∈ (if a.fifo then [.adcStop] else []) ++ Front.setUp a.inputs t,
      Front.Describes c := by
    intro c hc
    rcases List.mem_append.1 hc with hc | hc
    · obtain rfl : c = .adcStop := by cases hf : a.fifo <;> simp_all
      trivial
    · exact (Front.describes_transfer c hc).2
  rw [runOn_configure g t h]
  exact ((grows_perform (c := .dmaAbort (1 <<< dmaChannel)) trivial g).trans
    (grows_awaitAbort _)).trans (grows_forM hcs _)

end

variable [Device σ] [Converting σ] [Statics σ] [Logger σ] [CriticalSection σ] [SharedRing σ]

/-- **A restart arms a new transfer**, with its mark behind all that has ended so far. -/
theorem restart_rearms {u : Driven σ} {mark : Option Mark}
    (hu : Invariant (SharedRing.base σ) .between mark u) (f : Fault) :
    ∃ v m, (Pipeline.restart f (ringTransfer (SharedRing.base σ))).runOn u = (.ok (), v) ∧
      v.world.marks = u.world.marks ++ [m] ∧
      Invariant (SharedRing.base σ) .between (some m) v ∧
      (front u.world).ended.length ≤ m.ended ∧ (front u.world).Extends (front v.world) := by
  have hb := SharedRing.aligned (σ := σ)
  let t := ringTransfer (SharedRing.base σ)
  -- the calls of a restart, one after the other
  let u₁ := ((log f.message).runOn u).2
  let u₂ := (halt.runOn u₁).2
  let u₃ := (CriticalSection.enter.runOn ((log .reconfiguring).runOn u₂).2).2
  let u₄ := ((configure t).runOn u₃).2
  let u₅ := (CriticalSection.leave.runOn u₄).2
  let u₆ := (resume.runOn u₅).2
  have hrun : (Pipeline.restart f t).runOn u = (.ok (), u₆) := by
    rw [Pipeline.runOn_restart]
    rfl
  have p₁ : Driven.Passes u u₁ := .log _ u
  have p₃ : Driven.Passes u₂ u₃ := (Driven.Passes.log _ u₂).trans (.enter _)
  have p₅ : Driven.Passes u₄ u₅ := .leave u₄
  have h₃ : Invariant _ .halted mark u₃ := p₃.invariant hb ((p₁.invariant hb hu).halt hb)
  have h₄ : Invariant _ .configured (some (front u₃.world).mark) u₄ := h₃.configure
  have h₆ : Invariant _ .between (some (front u₃.world).mark) u₆ :=
    (p₅.invariant hb h₄).resume hb
  have hadc : u₃.own.adc = !u₃.own.fifo := by
    rw [h₃.own]
    cases mark <;> rfl
  have hmark : (front u₄.world).mark = (front u₃.world).mark :=
    (h₄.armed _ rfl).mark_eq (h₄.fresh rfl _ rfl)
  have hmarks : u₆.world.marks = u.world.marks ++ [(front u₃.world).mark] := by
    have h := marks_configure t u₃ hadc
    rw [marks_resume, p₅.marks, h, p₃.marks, marks_halt, p₁.marks, hmark]
  have hgrows : (front u.world).Extends (front u₃.world) :=
    (p₁.grows.trans (grows_halt u₁)).trans p₃.grows
  have hgrows' : (front u₃.world).Extends (front u₆.world) :=
    ((grows_configure t u₃ hadc).trans p₅.grows).trans (grows_resume u₅)
  exact ⟨u₆, _, hrun, hmarks, h₆, hgrows.ended.length_le, hgrows.trans hgrows'⟩

end AdcDma

end SensorBoard
