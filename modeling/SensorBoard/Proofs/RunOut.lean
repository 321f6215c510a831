import SensorBoard.Proofs.Readout

/-!
# When the count runs out

The channel counts its transfers down from the largest word and stops for good when the count has
run out, after hours of sampling, while the converter goes on. Nobody watches for that moment. What
saves the board is that the pipeline sees a sampler that has stopped, so the samples that are left
have to be drained, the next fault has to be a stall, and what the converter did in the meantime has
to stay out of the averages.

* `Board.RunOut`: the count has run out; `RunOut.passes` says that nothing is stored from there on.
* `Kept.drainsRest`, `Kept.stalled`, `Kept.overflowed`: what the next acquisition does, by the
  number of samples that are left.
* `Kept.rearmed`: a fault starts the transfer anew.
* `Board.Late`: the conversions that ended between a run-out and the next start of the channel.
* `Kept.accumulates`: no acquisition takes one of those into the averages.
* `Board.runOut_harmless`: **a run-out is harmless**, in every run.
* `Schedule.exists_runOut`: runs meet it with any number of samples left.
-/

namespace SensorBoard

open Front (Mark Armed InStep ringTransfer fullCount)

variable {σ : Type}

namespace Board

open Pipeline Driven

variable [Device σ] [Converting σ]

/-! ## The run-out -/

/-- A transfer was set up, and its count has run out. -/
def RunOut (u : Driven σ) : Prop := u.own.fifo = true ∧ (front u.world).dma.remaining = 0

/-- A run-out lasts until the transfer is set up anew, and nothing is stored in it. -/
theorem RunOut.passes {u v : Driven σ} (hr : RunOut u) (h : Passes u v) :
    RunOut v ∧ v.stored = u.stored := by
  obtain ⟨ss, hss⟩ := h.converted
  obtain ⟨hdma, -, hstored⟩ := Front.convertAll_runOut hr.2 ss
  refine ⟨⟨h.own ▸ hr.1, by rw [hss, hdma]; exact hr.2⟩, ?_⟩
  cases hm : u.world.mark with
  | none => rw [Driven.stored, Driven.stored, h.mark, hm]
  | some m =>
    rw [stored_eq hm, stored_eq (h.mark.trans hm), hss]
    show List.drop _ _ = List.drop _ _
    rw [hstored]

/-- The samples that are stored and not yet drained, in order. -/
def rest (h : Board σ) : List Int16 := (h.world.stored.drop h.own.consumed.toNat).map (·.sample)

theorem length_rest (h : Board σ) : (rest h).length = unread h := by
  rw [rest, List.length_map, List.length_drop]
  rfl

variable [Statics σ] [Logger σ] [CriticalSection σ] [SharedRing σ]

/-- A driver that has given the converter away has a transfer. -/
theorem Kept.mark_of_fifo {h : Board σ} (k : Kept h) (hf : h.world.own.fifo = true) :
    ∃ m, h.world.world.mark = some m := by
  have hown := congrArg AdcDma.fifo k.driver.own
  exact Option.isSome_iff_exists.1 (hown.symm.trans hf)

theorem Kept.runOut {h : Board σ} (k : Kept h) (hr : RunOut h.world) :
    ∃ m, h.world.world.mark = some m ∧ h.world.stored.length = fullCount := by
  obtain ⟨m, hm⟩ := k.mark_of_fifo hr.1
  have hfull := (k.driver.armed m hm).filling.remaining
  rw [hr.2] at hfull
  refine ⟨m, hm, ?_⟩
  rw [stored_eq hm, ← hfull]
  exact (Nat.zero_add _).symm

theorem Kept.written_runOut {h : Board σ} (k : Kept h) (hr : RunOut h.world) {n : UInt32}
    {v : Driven σ} (hw : Sampler.written.runOn h.world = (.ok n, v)) :
    Passes h.world v ∧ n = 0xffffffff ∧ RunOut v ∧ v.stored = h.world.stored := by
  obtain ⟨hpass, hn⟩ := written_counts k.driver hw
  obtain ⟨hr', hstored⟩ := hr.passes hpass
  obtain ⟨m, -, hfull⟩ := k.runOut hr
  rw [hstored, hfull] at hn
  exact ⟨hpass, UInt32.toNat_inj.1 hn, hr', hstored⟩

/-- The backlog that an acquisition finds in a run-out. -/
theorem Kept.backlog_runOut {h : Board σ} (k : Kept h) (hr : RunOut h.world) :
    ∃ n v, Sampler.written.runOn h.world = (.ok n, v) ∧ Passes h.world v ∧ RunOut v ∧
      v.stored = h.world.stored ∧ (h.own.backlog n).toNat = unread h := by
  obtain ⟨n, v, hw⟩ := exists_written h.world
  obtain ⟨hpass, hn⟩ := written_counts k.driver hw
  obtain ⟨-, -, hr', hstored⟩ := k.written_runOut hr hw
  refine ⟨n, v, hw, hpass, hr', hstored, ?_⟩
  rw [k.toNat_backlog hpass hn, unread, unread, hstored]

theorem Kept.stalled {h : Board σ} (k : Kept h) (hr : RunOut h.world) (hu : unread h = 0) :
    (Pipeline.acquire.runOn h).1 = .ok ⟨.replicate 0, some .stalled⟩ := by
  obtain ⟨n, v, hw, hpass, -, -, hbacklog⟩ := k.backlog_runOut hr
  have hfault := health_eq_stalled_iff.2 (hbacklog.trans hu)
  exact (k.acquire_faulted hw hpass hfault).1

theorem Kept.overflowed {h : Board σ} (k : Kept h) (hr : RunOut h.world) (hu : 224 < unread h) :
    ∃ u, u.toNat = unread h ∧
      (Pipeline.acquire.runOn h).1 = .ok ⟨.replicate 0, some (.overflow u)⟩ := by
  obtain ⟨n, v, hw, hpass, -, -, hbacklog⟩ := k.backlog_runOut hr
  have hfault := health_eq_overflow_iff.2 ⟨hbacklog ▸ hu, rfl⟩
  exact ⟨_, hbacklog, (k.acquire_faulted hw hpass hfault).1⟩

/-- What an acquisition makes of the last samples of a transfer that has run out. -/
structure DrainsRest (h : Board σ) : Prop where
  returned : (Pipeline.acquire.runOn h).1 =
    .ok ⟨meansOf (numbered h.own.consumed (rest h)), none⟩
  drained : Pipeline.drained h = (numbered h.own.consumed (rest h)).map fun x =>
    (ringIndex x.1, .ofIndex x.1.toNat, x.2)
  runOut : RunOut (Pipeline.acquire.runOn h).2.world
  unread : unread (Pipeline.acquire.runOn h).2 = 0
  /-- The next one sees a stall, however many conversions have ended. -/
  stalled (v : Driven σ) (passes : Passes (Pipeline.acquire.runOn h).2.world v) :
    (Pipeline.acquire.runOn ⟨(Pipeline.acquire.runOn h).2.own, v⟩).1 =
      .ok ⟨.replicate 0, some .stalled⟩

/-- In a run-out a backlog that is drained reads as it was stored: the slots hold still. -/
theorem Kept.readFrom_rest {h : Board σ} (k : Kept h) (hr : RunOut h.world)
    (hfew : unread h ≤ 224) {v : Driven σ} (hpass : Passes h.world v) :
    ((readFrom h.own.consumed (unread h)).runOn v).1 = rest h := by
  obtain ⟨m, hm, hfull⟩ := k.runOut hr
  obtain ⟨hr', hstored⟩ := hr.passes hpass
  have hread := Passes.readFrom h.own.consumed (unread h) v
  obtain ⟨-, hstored'⟩ := hr'.passes hread
  have harmed := hpass.armed SharedRing.aligned (k.driver.armed m hm)
  have hv := stored_eq (hpass.mark.trans hm)
  have hv' := stored_eq (hread.mark.trans (hpass.mark.trans hm))
  have hbehind := k.behind
  have hlen := length_readFrom h.own.consumed (unread h) v
  have hroom : h.own.consumed.toNat + unread h ≤ ((front v.world).storedSince m).length := by
    rw [← hv, hstored, unread]
    omega
  refine List.ext_getElem? fun i => ?_
  by_cases hi : i < unread h
  · have hs := List.getElem?_eq_getElem (by rw [hlen]; exact hi :
      i < ((readFrom h.own.consumed (unread h)).runOn v).1.length)
    obtain ⟨j, x, hx, hxs, hle, hmod⟩ := readFrom_numbers (unread h) harmed hroom hs
    rw [← hv', hstored', hstored] at hx
    -- no more than a ring's length is left, so the slot tells the number
    have hj : j = h.own.consumed.toNat + i := by
      have hlt := (List.getElem?_eq_some_iff.1 hx).1
      rw [unread] at hfew hi
      omega
    rw [hs, rest, List.getElem?_map, List.getElem?_drop, ← hj, hx, ← hxs]
    rfl
  · rw [List.getElem?_eq_none (by omega), List.getElem?_eq_none (by rw [length_rest]; omega)]

theorem Kept.drainsRest {h : Board σ} (k : Kept h) (hr : RunOut h.world) (hsome : 1 ≤ unread h)
    (hfew : unread h ≤ 224) : DrainsRest h := by
  obtain ⟨n, v, hw, hpass, hr', hstored, hbacklog⟩ := k.backlog_runOut hr
  have hhealth : health (h.own.backlog n) = none := by
    rw [health_eq_none_iff, hbacklog]
    exact ⟨hsome, hfew⟩
  obtain ⟨hreturned, hdrained, hown, hlog⟩ := k.acquire_healthy hw hhealth
  have hread := (Passes.readFrom h.own.consumed (h.own.backlog n).toNat v).trans hlog
  obtain ⟨hr'', hstored'⟩ := hr'.passes hread
  obtain ⟨-, hn, -, -⟩ := k.written_runOut hr hw
  obtain ⟨m, -, hfull⟩ := k.runOut hr
  rw [hbacklog, k.readFrom_rest hr hfew hpass] at hreturned hdrained
  have hunread : unread (Pipeline.acquire.runOn h).2 = 0 := by
    rw [unread, hown, hstored', hstored, hfull]
    show fullCount - n.toNat = 0
    rw [hn]
    rfl
  refine ⟨hreturned, ?_, hr'', hunread, ?_⟩
  · rw [hdrained]
    simp only [ofSample_ringIndex]
  · intro w hpass'
    obtain ⟨hw', hsame⟩ := hr''.passes hpass'
    have k' : Kept (⟨(Pipeline.acquire.runOn h).2.own, w⟩ : Board σ) := k.acquire.1.passes hpass'
    refine k'.stalled hw' ?_
    rw [unread] at hunread ⊢
    rw [hsame]
    exact hunread

theorem Kept.rearmed {h : Board σ} (k : Kept h) {r : Readings} {f : Fault}
    (hr : (Pipeline.acquire.runOn h).1 = .ok ⟨r, some f⟩) : ∃ m, Rearmed h m := by
  obtain ⟨n, v, hw⟩ := exists_written h.world
  obtain ⟨hpass, hn⟩ := written_counts k.driver hw
  cases hhealth : health (h.own.backlog n) with
  | none =>
    obtain ⟨hreturned, -⟩ := k.acquire_healthy hw hhealth
    rw [hr] at hreturned
    cases hreturned
  | some f' => exact (k.acquire_faulted hw hpass hhealth).2

/-! ## What is accumulated -/

/-- A conversion, by its number, that ended when the transfer of its time had run out: after that
and before the next start of the channel. -/
def Late (marks : List Mark) (i : Nat) : Prop :=
  ∃ m ∈ marks, m.ended + fullCount ≤ i ∧ ∀ m' ∈ marks, m'.ended ≤ i → m'.ended ≤ m.ended

theorem not_late {marks : List Mark} {m : Mark} (hm : marks.getLast? = some m) {j : Nat}
    (hj : j < fullCount) : ¬Late marks (m.ended + j) := by
  rintro ⟨m', -, hle, hlast⟩
  have := hlast m (List.mem_of_getLast? hm) (Nat.le_add_right _ _)
  omega

theorem ofIndex_congr {i j : Nat} (h : i % 256 = j % 256) : Channel.ofIndex i = .ofIndex j := by
  have h4 : i % 4 = j % 4 := by omega
  rw [← Channel.index_inj, Channel.index_ofIndex, Channel.index_ofIndex, h4]

/-- A sample that was stored is that of a conversion of the same number. -/
theorem ended_of_stored {base : UInt32} {m : Mark} {f : Front} (h : Armed base m f) {j : Nat}
    {x : Stored} (hx : (f.storedSince m)[j]? = some x) :
    j < fullCount ∧ f.ended[m.ended + j]? = some x.toConversion := by
  have hfull := h.filling.remaining
  have hlt := (List.getElem?_eq_some_iff.1 hx).1
  have hj : j < fullCount := by omega
  have hended := congrArg (·[j]?) h.filling.conversions
  simp only [List.getElem?_map, hx, List.getElem?_take_of_lt hj, Option.map_some] at hended
  refine ⟨hj, ?_⟩
  rw [hended, Front.endedSince, List.getElem?_drop]

/-- Where a sample that is accumulated comes from: the transfer in progress stored it in the slot of
its number, from the input of its channel, and its conversion was not late. -/
structure Origin (h : Board σ) (k : Nat) (s : Int16) (m : Mark) (j : Nat) (x : Stored) : Prop where
  mark : h.world.world.mark = some m
  stored : ((front (Pipeline.acquire.runOn h).2.world.world).storedSince m)[j]? = some x
  ended : (front (Pipeline.acquire.runOn h).2.world.world).ended[m.ended + j]? =
    some x.toConversion
  timely : ¬Late h.world.world.marks (m.ended + j)
  number : h.own.consumed.toNat + k ≤ j
  address : x.address = slotAddress (SharedRing.base σ) (h.own.consumed.toNat + k)
  input : x.input = channelInputs.get (.ofIndex (h.own.consumed.toNat + k))
  sample : x.sample = s

/-- What an acquisition accumulates: its readings are the averages of just those samples. -/
structure Accumulates (h : Board σ) (ss : List Int16) (fault : Option Fault) : Prop where
  returned : (Pipeline.acquire.runOn h).1 = .ok ⟨meansOf (numbered h.own.consumed ss), fault⟩
  drained : Pipeline.drained h = (numbered h.own.consumed ss).map fun x =>
    (ringIndex x.1, .ofIndex x.1.toNat, x.2)
  origin {k : Nat} {s : Int16} (hs : ss[k]? = some s) : ∃ m j x, Origin h k s m j x

/-- Something that was not drained was stored by a transfer. -/
theorem Kept.exists_mark {h : Board σ} (k : Kept h) (hu : 1 ≤ unread h) :
    ∃ m, h.world.world.mark = some m ∧
      h.own.consumed.toNat + unread h = ((front h.world.world).storedSince m).length := by
  have hbehind := k.behind
  cases hm : h.world.world.mark with
  | none =>
    have hnil : h.world.stored = [] := by rw [Driven.stored, hm]
    rw [unread, hnil] at hu
    exact absurd hu (by simp)
  | some m =>
    rw [stored_eq hm] at hbehind
    rw [unread, stored_eq hm]
    exact ⟨m, rfl, by omega⟩

/-- **No late conversion is accumulated.** -/
theorem Kept.accumulates {h : Board σ} (k : Kept h) : ∃ ss fault, Accumulates h ss fault := by
  obtain ⟨n, v, hw⟩ := exists_written h.world
  obtain ⟨hpass, hn⟩ := written_counts k.driver hw
  cases hhealth : health (h.own.backlog n) with
  | some f =>
    obtain ⟨hreturned, m, hrearmed⟩ := k.acquire_faulted hw hpass hhealth
    exact ⟨[], some f, by rw [hreturned, numbered_nil, meansOf_nil], hrearmed.drained, nofun⟩
  | none =>
    obtain ⟨hreturned, hdrained, -, hlog⟩ := k.acquire_healthy hw hhealth
    have hread := Passes.readFrom h.own.consumed (h.own.backlog n).toNat v
    have hbacklog := k.toNat_backlog hpass hn
    have hsome : 1 ≤ unread (⟨h.own, v⟩ : Board σ) := hbacklog ▸ (health_eq_none_iff.1 hhealth).1
    have kv : Kept (⟨h.own, v⟩ : Board σ) := k.passes hpass
    obtain ⟨m, hm, hroom⟩ := kv.exists_mark hsome
    have harmed := kv.driver.armed m hm
    refine ⟨_, none, hreturned, ?_, ?_⟩
    · rw [hdrained]
      simp only [ofSample_ringIndex]
    · intro i s hs
      obtain ⟨j, x, hx, hxs, hle, hmod⟩ :=
        readFrom_numbers _ harmed (hbacklog ▸ Nat.le_of_eq hroom) hs
      have harmed' := (hread.trans hlog).armed SharedRing.aligned harmed
      have hx' := Front.getElem?_of_prefix (hlog.grows.storedSince m) hx
      obtain ⟨hj, hended⟩ := ended_of_stored harmed' hx'
      have hmark : h.world.world.mark = some m := hpass.mark.symm.trans hm
      have hslot : j % 256 = (h.own.consumed.toNat + i) % 256 := hmod
      refine ⟨m, j, x, hmark, hx', hended, not_late hmark hj, hle, ?_, ?_, hxs⟩
      · rw [harmed'.filling.laid.address hx', slotAddress_inj SharedRing.aligned, hslot]
      · rw [harmed'.inStep.input hx', ofIndex_congr hslot]

/-! ## In every run -/

/-- What can be said of a board between two acquisitions, of its count and of the next
acquisition. -/
structure Harmless (h : Board σ) : Prop where
  /-- The count can be read, and is the number of samples stored since the channel was started. -/
  counted : ∃ n v, Sampler.written.runOn h.world = (.ok n, v) ∧ Passes h.world v ∧
    n.toNat = v.stored.length ∧ v.stored.length ≤ fullCount
  /-- They lie in the ring from its first slot on, and come from the channels in turn. -/
  inStep {m : Mark} (hm : h.world.world.mark = some m) {n : UInt32} {v : Driven σ}
    (hw : Sampler.written.runOn h.world = (.ok n, v)) :
    InStep (SharedRing.base σ) m channelInputs n (front v.world)
  /-- Until the next transfer is set up the count does not go back. -/
  monotone {n n' : UInt32} {v v' : Driven σ} {h' : Board σ}
    (hw : Sampler.written.runOn h.world = (.ok n, v)) (leads : Leads ⟨h.own, v⟩ h')
    (same : h'.world.world.marks = h.world.world.marks)
    (hw' : Sampler.written.runOn h'.world = (.ok n', v')) : n ≤ n'
  /-- In a run-out it stays at the largest word. -/
  frozen (hr : RunOut h.world) {n : UInt32} {v : Driven σ}
    (hw : Sampler.written.runOn h.world = (.ok n, v)) : n = 0xffffffff ∧ RunOut v
  few (hr : RunOut h.world) (hsome : 1 ≤ unread h) (hfew : unread h ≤ 224) : DrainsRest h
  stalled (hr : RunOut h.world) (hnone : unread h = 0) :
    (Pipeline.acquire.runOn h).1 = .ok ⟨.replicate 0, some .stalled⟩
  overflowed (hr : RunOut h.world) (hmany : 224 < unread h) : ∃ u, u.toNat = unread h ∧
    (Pipeline.acquire.runOn h).1 = .ok ⟨.replicate 0, some (.overflow u)⟩
  /-- Any fault starts the transfer anew. -/
  rearmed {r : Readings} {f : Fault} (hr : (Pipeline.acquire.runOn h).1 = .ok ⟨r, some f⟩) :
    ∃ m, Rearmed h m
  /-- No late conversion is ever accumulated. -/
  accumulates : ∃ ss fault, Accumulates h ss fault

theorem Kept.monotone {h h' : Board σ} (k : Kept h) {n n' : UInt32} {v v' : Driven σ}
    (hw : Sampler.written.runOn h.world = (.ok n, v)) (leads : Leads ⟨h.own, v⟩ h')
    (same : h'.world.world.marks = h.world.world.marks)
    (hw' : Sampler.written.runOn h'.world = (.ok n', v')) : n ≤ n' := by
  obtain ⟨hpass, hn⟩ := written_counts k.driver hw
  have k₁ : Kept (⟨h.own, v⟩ : Board σ) := k.passes hpass
  obtain ⟨k', -⟩ := leads.kept k₁
  obtain ⟨hpass', hn'⟩ := written_counts k'.driver hw'
  have hstored := leads.stored k₁ (same.trans hpass.marks.symm)
  rw [UInt32.le_iff_toNat_le, hn, hn']
  exact (hstored.trans hpass'.stored).length_le

/-- **A run-out of the count is harmless**, in every run of conversions and acquisitions from a
converter at rest. -/
theorem runOut_harmless {w : σ} (rest : (front w).Resting) {h : Board σ}
    (leads : Leads (fresh w) h) : Harmless h := by
  have k : Kept h := (leads.kept (kept_fresh rest)).1
  constructor
  case counted =>
    obtain ⟨n, v, hw⟩ := exists_written h.world
    obtain ⟨hpass, hn⟩ := written_counts k.driver hw
    have hlt := n.toNat_lt
    refine ⟨n, v, hw, hpass, hn, ?_⟩
    show _ ≤ 4294967295
    omega
  case inStep =>
    intro m hm n v hw
    exact (written_inStep k.driver hw).2.2 m hm
  case monotone => exact k.monotone
  case frozen =>
    intro hr n v hw
    obtain ⟨-, hn, hr', -⟩ := k.written_runOut hr hw
    exact ⟨hn, hr'⟩
  case few => exact k.drainsRest
  case stalled => exact k.stalled
  case overflowed => exact k.overflowed
  case rearmed => exact k.rearmed
  case accumulates => exact k.accumulates

end Board

/-! ## A run-out that is met -/

namespace Front

variable {base : UInt32} {m : Mark} {f : Front}

theorem ended_storeAll (f : Front) (cs : List Conversion) : (f.storeAll cs).ended = f.ended := by
  induction cs generalizing f with
  | nil => rfl
  | cons c cs ih =>
    rw [storeAll]
    split
    · exact ih _
    · rfl

/-- A converter that runs ends a conversion for each sample. -/
theorem length_ended_convertAll (hr : f.running = true) (ss : List Int16) :
    (f.convertAll ss).ended.length = f.ended.length + ss.length := by
  induction ss generalizing f with
  | nil => rfl
  | cons s ss ih =>
    have hone : f.convert s = f.land s := by rw [convert, if_pos hr]
    have hrun : (f.land s).running = true := (running_storeAll _).trans hr
    have hended : (f.land s).ended = f.ended ++ [f.conversion s] := ended_storeAll _ _
    rw [convertAll_cons, hone, ih hrun, hended, List.length_append, List.length_singleton,
      List.length_cons]
    omega

/-- All that ends is stored until the count has run out. -/
theorem Armed.length_storedSince (h : Armed base m f) :
    (f.storedSince m).length = min fullCount (f.endedSince m).length := by
  have hlen := congrArg List.length h.filling.conversions
  rwa [List.length_map, List.length_take] at hlen

theorem Armed.length_convertAll (hb : base.toNat % 512 = 0) (h : Armed base m f)
    (hr : f.running = true) (ss : List Int16)
    (hroom : (f.storedSince m).length + ss.length ≤ fullCount) :
    ((f.convertAll ss).storedSince m).length = (f.storedSince m).length + ss.length := by
  have hmarked := h.turning.marked
  have hended := length_ended_convertAll hr ss
  have hlen := h.length_storedSince
  have hlen' := (h.convertAll hb ss).length_storedSince
  rw [endedSince, List.length_drop] at hlen hlen'
  omega

end Front

namespace Schedule

open Driven Board
open Pipeline (readFrom)

instance : CriticalSection Schedule where
  enter := return ()
  leave := return ()

instance : SharedRing Schedule where
  base := ringBase
  aligned := by decide
  front_ringSample _ _ := ⟨[], rfl, rfl⟩
  front_log _ _ := ⟨[], rfl⟩
  front_enter _ := ⟨[], rfl⟩
  front_leave _ := ⟨[], rfl⟩

/-- The board after conversions. -/
def converted (h : Board Schedule) (ss : List Int16) : Board Schedule :=
  ⟨h.own, ⟨h.world.own, ⟨⟨h.world.world.world.front.convertAll ss, []⟩, h.world.world.marks⟩⟩⟩

theorem passes_converted (h : Board Schedule) (ss : List Int16) :
    Passes h.world (converted h ss).world := ⟨rfl, rfl, ss, rfl⟩

theorem length_converted {h : Board Schedule} (k : Kept h) (hf : h.world.own.fifo = true)
    (hr : h.world.world.world.front.running = true) (ss : List Int16)
    (hroom : h.world.stored.length + ss.length ≤ fullCount) :
    (converted h ss).world.stored.length = h.world.stored.length + ss.length := by
  obtain ⟨m, hm⟩ := k.mark_of_fifo hf
  have hm' : (converted h ss).world.world.mark = some m := hm
  rw [stored_eq hm] at hroom ⊢
  rw [stored_eq hm']
  exact (k.driver.armed m hm).length_convertAll SharedRing.aligned hr ss hroom

/-- With nothing due, an acquisition without a fault leaves the chip as it is. -/
theorem acquire_due {h : Board Schedule} (k : Kept h) (hdue : h.world.world.world.coming = [])
    (hsome : 1 ≤ unread h) (hfew : unread h ≤ 224) :
    (Pipeline.acquire.runOn h).2.world = h.world ∧
      (Pipeline.acquire.runOn h).2.own.consumed.toNat = h.world.stored.length := by
  have hwritten (u : Driven Schedule) (hu : u.world.world.coming = []) :
      (Sampler.written.runOn u).2 = u := by
    obtain ⟨⟨adc, fifo, inputs⟩, ⟨⟨front, coming⟩, marks⟩⟩ := u
    obtain rfl : coming = [] := hu
    cases fifo <;> rfl
  have hread (n : UInt32) (i : Nat) (u : Driven Schedule) : ((readFrom n i).runOn u).2 = u := by
    induction i generalizing n with
    | zero => rfl
    | succ i ih => exact ih (n + 1)
  obtain ⟨n, v, hw⟩ := exists_written h.world
  obtain rfl : h.world = v := (hwritten _ hdue).symm.trans (congrArg Prod.snd hw)
  obtain ⟨hpass, hn⟩ := written_counts k.driver hw
  have hhealth : health (h.own.backlog n) = none := by
    rw [health_eq_none_iff, k.toNat_backlog hpass hn]
    exact ⟨hsome, hfew⟩
  obtain ⟨p, u⟩ := h
  rw [Pipeline.acquire_healthy k.cleared hw hhealth]
  exact ⟨hread .., hn⟩

/-- A board whose converter runs, with nothing due, which has drained all that it stored. -/
structure Level (h : Board Schedule) (n : Nat) : Prop where
  leads : Leads (fresh {}) h
  running : h.world.world.world.front.running = true
  due : h.world.world.world.coming = []
  fifo : h.world.own.fifo = true
  consumed : h.own.consumed.toNat = n
  stored : h.world.stored.length = n

/-- The first acquisition finds a stall, and starts the converter. -/
theorem level_fresh : Level (Pipeline.acquire.runOn (fresh {} : Board Schedule)).2 0 where
  leads := .acquire .refl
  running := by decide
  due := by decide
  fifo := by decide
  consumed := by decide
  stored := by decide

theorem Level.kept {h : Board Schedule} {n : Nat} (l : Level h n) : Kept h :=
  (l.leads.kept (kept_fresh ⟨rfl, rfl, rfl⟩)).1

/-- A conversion, and an acquisition that drains it. -/
theorem Level.succ {h : Board Schedule} {n : Nat} (l : Level h n) (hn : n < fullCount) :
    ∃ h', Level h' (n + 1) := by
  let h₁ := converted h [0]
  have hpass := passes_converted h [0]
  have hlen : h₁.world.stored.length = n + 1 := by
    have hroom : h.world.stored.length + [(0 : Int16)].length ≤ fullCount := by
      rw [l.stored]
      exact hn
    rw [length_converted l.kept l.fifo l.running [0] hroom, l.stored]
    rfl
  have hunread : unread h₁ = 1 := by
    show h₁.world.stored.length - h.own.consumed.toNat = 1
    rw [hlen, l.consumed]
    omega
  have k₁ : Kept h₁ := l.kept.passes hpass
  obtain ⟨hworld, hconsumed⟩ := acquire_due k₁ rfl (by omega) (by omega)
  refine ⟨(Pipeline.acquire.runOn h₁).2, .acquire (.passes l.leads hpass), ?_, ?_, ?_, ?_, ?_⟩
  · rw [hworld]
    exact (Front.running_convertAll [0]).trans l.running
  · rw [hworld]
    rfl
  · rw [hworld]
    exact l.fifo
  · rw [hconsumed, hlen]
  · rw [hworld, hlen]

theorem exists_level (n : Nat) (hn : n ≤ fullCount) : ∃ h, Level h n := by
  induction n with
  | zero => exact ⟨_, level_fresh⟩
  | succ n ih =>
    obtain ⟨h, l⟩ := ih (by omega)
    exact l.succ hn

/-- **A run-out is met with any number of samples left.** -/
theorem exists_runOut {n : Nat} (hn : n ≤ fullCount) :
    ∃ h : Board Schedule, Leads (fresh {}) h ∧ RunOut h.world ∧ unread h = n := by
  obtain ⟨h, l⟩ := exists_level (fullCount - n) (Nat.sub_le _ _)
  let ss : List Int16 := .replicate n 0
  have hpass := passes_converted h ss
  have hlen : (converted h ss).world.stored.length = fullCount := by
    have hroom : h.world.stored.length + ss.length ≤ fullCount := by
      rw [l.stored, List.length_replicate]
      omega
    rw [length_converted l.kept l.fifo l.running ss hroom, l.stored, List.length_replicate]
    omega
  refine ⟨converted h ss, .passes l.leads hpass, ⟨l.fifo, ?_⟩, ?_⟩
  · have k : Kept (converted h ss) := l.kept.passes hpass
    obtain ⟨m, hm⟩ := k.mark_of_fifo l.fifo
    have hfull := (k.driver.armed m hm).filling.remaining
    rw [← stored_eq hm, hlen] at hfull
    refine UInt32.toNat_inj.1 ?_
    show _ = 0
    omega
  · show (converted h ss).world.stored.length - h.own.consumed.toNat = n
    rw [hlen, l.consumed]
    omega

/-- The count runs out over the largest backlog that is drained, and over one sample more, which is
an overflow. -/
theorem runOut_harmless_at_the_limit :
    (∃ h : Board Schedule, Leads (fresh {}) h ∧ RunOut h.world ∧ unread h = 224 ∧ Harmless h ∧
      DrainsRest h) ∧
    ∃ h : Board Schedule, Leads (fresh {}) h ∧ RunOut h.world ∧ unread h = 225 ∧ Harmless h ∧
      (Pipeline.acquire.runOn h).1 = .ok ⟨.replicate 0, some (.overflow 225)⟩ := by
  constructor
  · obtain ⟨h, leads, hr, hu⟩ := exists_runOut (n := 224) (by decide)
    have hharmless := Board.runOut_harmless ⟨rfl, rfl, rfl⟩ leads
    exact ⟨h, leads, hr, hu, hharmless, hharmless.few hr (by omega) (by omega)⟩
  · obtain ⟨h, leads, hr, hu⟩ := exists_runOut (n := 225) (by decide)
    have hharmless := Board.runOut_harmless ⟨rfl, rfl, rfl⟩ leads
    obtain ⟨u, hunread, hreturned⟩ := hharmless.overflowed hr (by omega)
    obtain rfl : u = 225 := UInt32.toNat_inj.1 (hunread.trans hu)
    exact ⟨h, leads, hr, hu, hharmless, hreturned⟩

end Schedule

end SensorBoard
