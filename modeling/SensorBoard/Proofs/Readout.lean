import SensorBoard.Proofs.Headroom
import SensorBoard.Proofs.Safety
import SensorBoard.Proofs.Transfers

/-!
# Reading while conversions go on

A reader that takes its time reads a ring that moves. What it reads are samples all the same: each
comes from the slot of its number, and if the channel has come round meanwhile it is a later sample
of that slot, so of the same channel. The pipeline counts on this between any two of its calls.

* `Driven.written_counts`: **the count is the number of the samples stored**.
* `Driven.readFrom_numbers`: **what is read from a count on are stored samples**, each from the slot
  of its number.
* `Board.Leads`: runs of conversions and acquisitions; `Board.Kept` is what holds along them, one
  lemma for each way (`Kept.passes`, `Kept.acquire`), and `Leads.kept` is the run.
* `Board.unread`: what is stored and not drained; `Kept.toNat_backlog` says that the pipeline's
  wrapping difference is just that.
-/

namespace SensorBoard

open Front (Mark Armed InStep ringTransfer fullCount)

variable {σ : Type}

namespace Driven

variable [Device σ] [Converting σ]

theorem stored_eq {u : Driven σ} {m : Mark} (h : u.world.mark = some m) :
    u.stored = (front u.world).storedSince m := by
  rw [stored, h]

theorem Passes.stored {u v : Driven σ} (h : Passes u v) : u.stored <+: v.stored := by
  have hmark := h.mark
  cases hm : u.world.mark with
  | none =>
    rw [Driven.stored, hm]
    exact List.nil_prefix
  | some m =>
    rw [stored_eq hm, stored_eq (hmark.trans hm)]
    exact h.grows.storedSince m

theorem Passes.armed {base : UInt32} (hb : base.toNat % 512 = 0) {m : Mark} {u v : Driven σ}
    (h : Passes u v) (hu : Armed base m (front u.world)) : Armed base m (front v.world) := by
  obtain ⟨ss, hss⟩ := h.converted
  rw [hss]
  exact hu.convertAll hb ss

/-- What a transfer stores is numbered from the first slot and the first channel on. -/
theorem Passes.numbered {base : UInt32} (hb : base.toNat % 512 = 0) {m : Mark} {u v : Driven σ}
    (h : Passes u v) (hm : u.world.mark = some m) (hu : Armed base m (front u.world)) {k : Nat}
    {x : Stored} (hx : v.stored[k]? = some x) :
    x.address = slotAddress base k ∧ x.input = channelInputs.get (.ofIndex k) := by
  rw [stored_eq (h.mark.trans hm)] at hx
  have hstep := (h.armed hb hu).inStep
  exact ⟨hstep.address hx, hstep.input hx⟩

/-! ## Counting and reading while conversions go on -/

variable [Statics σ]

theorem exists_written (u : Driven σ) : ∃ n v, Sampler.written.runOn u = (.ok n, v) :=
  ⟨_, _, rfl⟩

variable [Logger σ] [CriticalSection σ] [SharedRing σ]

/-- A read of the count lets conversions end, and gives a count that is in step with the ring. -/
theorem written_inStep {u v : Driven σ} {stage : AdcDma.Stage} {n : UInt32}
    (hu : AdcDma.Invariant (SharedRing.base σ) stage u.world.mark u)
    (hw : Sampler.written.runOn u = (.ok n, v)) :
    Passes u v ∧ (u.world.mark = none → n = 0) ∧ ∀ m, u.world.mark = some m →
      InStep (SharedRing.base σ) m channelInputs n (front v.world) := by
  obtain ⟨n', w, hrun, hi, hnone, hsome⟩ := hu.written SharedRing.aligned
  obtain ⟨rfl, rfl⟩ : n' = n ∧ (⟨u.own, w⟩ : Driven σ) = v := by
    have h : (Except.ok n', (⟨u.own, w⟩ : Driven σ)) = (.ok n, v) :=
      (congrArg (fun r => (Except.ok r.1, r.2)) hrun.symm).trans hw
    rw [Prod.mk.injEq, Except.ok.injEq] at h
    exact h
  have hpass : Passes u ⟨u.own, w⟩ := by
    have hp := Passes.written u
    rwa [hrun] at hp
  refine ⟨hpass, hnone, fun m hm => ?_⟩
  rw [hsome (by rw [hm]; rfl)]
  exact (hi.armed m hm).inStep

/-- **The count is the number of the samples stored.** -/
theorem written_counts {u v : Driven σ} {stage : AdcDma.Stage} {n : UInt32}
    (hu : AdcDma.Invariant (SharedRing.base σ) stage u.world.mark u)
    (hw : Sampler.written.runOn u = (.ok n, v)) : Passes u v ∧ n.toNat = v.stored.length := by
  obtain ⟨hpass, hnone, hsome⟩ := written_inStep hu hw
  refine ⟨hpass, ?_⟩
  cases hm : u.world.mark with
  | none =>
    rw [hnone hm, stored, hpass.mark.trans hm]
    rfl
  | some m =>
    rw [stored_eq (hpass.mark.trans hm)]
    exact (hsome m hm).count

/-- The slot of a count holds the last sample that was stored there. -/
theorem exists_latest {base : UInt32} (hb : base.toNat % 512 = 0) {m : Mark} {f : Front}
    (h : Armed base m f) {n : UInt32} (hn : n.toNat < (f.storedSince m).length) :
    ∃ j x, (f.storedSince m)[j]? = some x ∧ x.sample = (f.ringAt base).read (ringIndex n) ∧
      n.toNat ≤ j ∧ j % 256 = n.toNat % 256 := by
  let len := (f.storedSince m).length
  let j := n.toNat + 256 * ((len - 1 - n.toNat) / 256)
  have hj : j < len := by omega
  have hlast : len ≤ j + 256 := by omega
  have hmod : j % 256 = n.toNat % 256 := by omega
  have hx := List.getElem?_eq_getElem hj
  refine ⟨j, _, hx, ?_, by omega, hmod⟩
  rw [Front.read_ringAt, ← h.filling.laid.latest hx hlast]
  congr 1
  rw [slotAddress_inj hb, Feed.slot_ringIndex, hmod, Nat.mod_mod]

theorem Passes.readOne (n : UInt32) (u : Driven σ) :
    Passes u ((Pipeline.readOne n).runOn u).2 :=
  (Passes.sampleAt (ringIndex n) u).1.trans (.log _ _)

theorem Passes.readFrom (n : UInt32) (k : Nat) (u : Driven σ) :
    Passes u ((Pipeline.readFrom n k).runOn u).2 := by
  induction k generalizing n u with
  | zero => exact .refl u
  | succ k ih =>
    rw [Pipeline.runOn_readFrom_succ_of_one]
    exact (Passes.readOne n u).trans (ih _ _)

theorem readOne_latest {m : Mark} {n : UInt32} {u : Driven σ}
    (harmed : Armed (SharedRing.base σ) m (front u.world))
    (hn : n.toNat < ((front u.world).storedSince m).length) :
    let r := (Pipeline.readOne n).runOn u
    ∃ j x, ((front r.2.world).storedSince m)[j]? = some x ∧ x.sample = r.1 ∧ n.toNat ≤ j ∧
      j % 256 = n.toNat % 256 := by
  let r₁ := (Sampler.sampleAt (ringIndex n)).runOn u
  obtain ⟨hsample, hread⟩ := Passes.sampleAt (ringIndex n) u
  have hlog : Passes r₁.2 ((Pipeline.readOne n).runOn u).2 := Passes.log _ r₁.2
  have hlen := (hsample.grows.storedSince m).length_le
  obtain ⟨j, x, hx, hxs, hle, hmod⟩ :=
    exists_latest SharedRing.aligned (hsample.armed SharedRing.aligned harmed) (n := n) (by omega)
  have hlater := hlog.grows.storedSince m
  exact ⟨j, x, Front.getElem?_of_prefix hlater hx, hxs.trans hread.symm, hle, hmod⟩

/-- **What is read from a count on are stored samples**, each from the slot of its number. If too
many conversions end meanwhile, it may be a later sample of the same slot. -/
theorem readFrom_numbers {m : Mark} (k : Nat) {n : UInt32} {u : Driven σ}
    (harmed : Armed (SharedRing.base σ) m (front u.world))
    (hk : n.toNat + k ≤ ((front u.world).storedSince m).length) {i : Nat} {s : Int16}
    (hs : ((Pipeline.readFrom n k).runOn u).1[i]? = some s) :
    ∃ j x, ((front ((Pipeline.readFrom n k).runOn u).2.world).storedSince m)[j]? = some x ∧
      x.sample = s ∧ n.toNat + i ≤ j ∧ j % 256 = (n.toNat + i) % 256 := by
  induction k generalizing n u i with
  | zero => cases hs
  | succ k ih =>
    have hone := Passes.readOne n u
    have hrest := Passes.readFrom (n + 1) k ((Pipeline.readOne n).runOn u).2
    have hfirst := readOne_latest harmed (n := n) (by omega)
    rw [Pipeline.runOn_readFrom_succ_of_one] at hs ⊢
    generalize (Pipeline.readOne n).runOn u = r at hone hrest hfirst hs ⊢
    cases i with
    | zero =>
      obtain ⟨j, x, hx, hxs, hle, hmod⟩ := hfirst
      obtain rfl : r.1 = s := Option.some.inj hs
      exact ⟨j, x, Front.getElem?_of_prefix (hrest.grows.storedSince m) hx, hxs, hle, hmod⟩
    | succ i =>
      have harmed₁ := hone.armed SharedRing.aligned harmed
      have hnext : (n + 1).toNat = n.toNat + 1 := by
        have hbound : fullCount = 4294967295 := rfl
        have hfull := harmed.filling.remaining
        rw [UInt32.toNat_add, UInt32.toNat_one]
        omega
      have hk₁ : (n + 1).toNat + k ≤ ((front r.2.world).storedSince m).length := by
        have hlen := (hone.grows.storedSince m).length_le
        omega
      obtain ⟨j, x, hx, hxs, hle, hmod⟩ := ih harmed₁ hk₁ hs
      exact ⟨j, x, hx, hxs, by omega, by omega⟩

end Driven

/-! ## Messages of a fault -/

namespace Pipeline

variable [Sampler σ] [Logger σ] [CriticalSection σ]

theorem samples_restart (f : Fault) (t : Transfer) (o : Observed σ) :
    ((restart f t).runOn o).2.messages.filterMap Message.sample =
      o.messages.filterMap Message.sample := by
  have hf : f.message.sample = none := by cases f <;> rfl
  have hr : Message.reconfiguring.sample = none := rfl
  rcases restart_cases f t o with ⟨e, o₁, hh, hrun⟩ | ⟨o₁, c, o₂, s, o₃, hh, hc, hs, hrun⟩ <;>
    rw [hrun] <;> have hh := (Observed.recorded .halt hh).2
  · rw [hh, Observed.messages_log, List.filterMap_append]
    simp [hf]
  · have hc := (Observed.recorded (.configure t) hc).2
    have hs := (Observed.recorded .resume hs).2
    rw [hs, Observed.messages_leave, hc, Observed.messages_enter, Observed.messages_log, hh,
      Observed.messages_log]
    simp [hf, hr]

/-- An acquisition that restarts the transfer drains nothing. -/
theorem drained_restarted {p : Pipeline} {w w₁ w₂ : σ} {n : UInt32} {f : Fault} (hp : p.Cleared)
    (hw : Sampler.written.runOn w = (.ok n, w₁)) (hn : health (p.backlog n) = some f)
    (hr : (restart f p.transfer).runOn w₁ = (.ok (), w₂)) :
    drained (⟨p, w⟩ : Held Pipeline σ) = [] := by
  let o₁ : Observed σ := { world := w₁, calls := [.written (.ok n)] }
  have hview := Observed.view_world.restart f p.transfer o₁
  have hsamples := samples_restart f p.transfer o₁
  rw [show o₁.world = w₁ from rfl, hr] at hview
  rcases hr' : (restart f p.transfer).runOn o₁ with ⟨r, o₂⟩
  rw [hr'] at hview hsamples
  obtain rfl : r = .ok () := (congrArg Prod.fst hview).symm
  rw [drained, messages, observe, acquire_restarted hp (written_observed hw) hn hr']
  rw [Observed.messages_log, List.filterMap_append, hsamples]
  rfl

end Pipeline

/-! ## Runs of the board -/

/-- The pipeline and the driver beside a world that is noted. -/
abbrev Board (σ : Type) : Type := Held Pipeline (Driven σ)

namespace Board

open Pipeline Driven

variable [Device σ] [Converting σ]

/-- A later moment of a board: nothing is taken off the histories and off the notes. -/
structure Later (h h' : Board σ) : Prop where
  histories : (front h.world.world).Extends (front h'.world.world)
  marks : h.world.world.marks <+: h'.world.world.marks

theorem Later.trans {h h' h'' : Board σ} (l : Later h h') (l' : Later h' h'') : Later h h'' :=
  ⟨l.histories.trans l'.histories, l.marks.trans l'.marks⟩

theorem later_passes {p q : Pipeline} {u v : Driven σ} (h : Passes u v) :
    Later (⟨p, u⟩ : Board σ) ⟨q, v⟩ :=
  ⟨h.grows, h.marks ▸ List.prefix_rfl⟩

variable [Statics σ] [Logger σ] [CriticalSection σ] [SharedRing σ]

/-- What a moment of the board leads to: conversions end, and acquisitions are made. -/
inductive Leads (h : Board σ) : Board σ → Prop
  | refl : Leads h h
  | passes {p : Pipeline} {u v : Driven σ} (leads : Leads h ⟨p, u⟩) (passes : Passes u v) :
    Leads h ⟨p, v⟩
  | acquire {h' : Board σ} (leads : Leads h h') : Leads h (Pipeline.acquire.runOn h').2

/-- A new pipeline over a converter that was just taken over. -/
def fresh (w : σ) : Board σ :=
  ⟨{ ring := SharedRing.base σ }, ⟨((AdcDma.start channelInputs).runOn w).1, { world := w }⟩⟩

/-- The samples that were stored and not yet drained. -/
def unread (h : Board σ) : Nat := h.world.stored.length - h.own.consumed.toNat

/-- What holds between acquisitions. -/
structure Kept (h : Board σ) : Prop where
  ring : h.own.ring = SharedRing.base σ
  cleared : h.own.Cleared
  driver : AdcDma.Invariant (SharedRing.base σ) .between h.world.world.mark h.world
  behind : h.own.consumed.toNat ≤ h.world.stored.length

theorem kept_fresh {w : σ} (rest : (front w).Resting) : Kept (fresh w) := by
  constructor
  case ring => rfl
  case cleared => exact (ready_new _).cleared
  case driver => exact ⟨rfl, nofun, fun _ => rest, nofun⟩
  case behind => exact Nat.zero_le _

theorem Kept.passes {p : Pipeline} {u v : Driven σ} (k : Kept ⟨p, u⟩) (h : Passes u v) :
    Kept (⟨p, v⟩ : Board σ) where
  ring := k.ring
  cleared := k.cleared
  driver := h.mark ▸ h.invariant SharedRing.aligned k.driver
  behind := Nat.le_trans k.behind h.stored.length_le

theorem Kept.transfer {h : Board σ} (k : Kept h) :
    h.own.transfer = ringTransfer (SharedRing.base σ) := by
  rw [Pipeline.transfer, k.ring]
  rfl

/-- The pipeline's backlog is the number of samples that it has not drained: the count does not wrap
under it. -/
theorem Kept.toNat_backlog {h : Board σ} (k : Kept h) {n : UInt32} {v : Driven σ}
    (hpass : Passes h.world v) (hn : n.toNat = v.stored.length) :
    (h.own.backlog n).toNat = unread ⟨h.own, v⟩ := by
  have hle : h.own.consumed ≤ n := by
    rw [UInt32.le_iff_toNat_le, hn]
    exact Nat.le_trans k.behind hpass.stored.length_le
  rw [backlog, UInt32.toNat_sub_of_le _ _ hle, hn]
  rfl

/-! ## Acquisitions of the board -/

/-- What an acquisition without a fault does: it reads on from the cursor while conversions go
on. -/
theorem Kept.acquire_healthy {h : Board σ} (k : Kept h) {n : UInt32} {v : Driven σ}
    (hw : Sampler.written.runOn h.world = (.ok n, v)) (hhealth : health (h.own.backlog n) = none) :
    let ss := ((readFrom h.own.consumed (h.own.backlog n).toNat).runOn v).1
    let r := Pipeline.acquire.runOn h
    r.1 = .ok ⟨meansOf (numbered h.own.consumed ss), none⟩ ∧
      drained h = (numbered h.own.consumed ss).map
        (fun x => (ringIndex x.1, .ofSample (ringIndex x.1), x.2)) ∧
      r.2.own = ({ h.own with consumed := n } : Pipeline).closed
        (meansOf (numbered h.own.consumed ss)) ∧
      Passes ((readFrom h.own.consumed (h.own.backlog n).toNat).runOn v).2 r.2.world := by
  obtain ⟨p, u⟩ := h
  have hacq := Pipeline.acquire_healthy k.cleared hw hhealth
  have hdrained := drained_healthy k.cleared hw hhealth
  intro ss r
  have hr : r = _ := hacq
  rw [hr]
  exact ⟨rfl, hdrained, rfl, .log _ _⟩

/-- What a fault leaves behind: a new transfer, from its first slot and its first channel on, and a
pipeline that starts with it. -/
structure Rearmed (h : Board σ) (m : Mark) : Prop where
  drained : Pipeline.drained h = []
  own : (Pipeline.acquire.runOn h).2.own = h.own.restarted.closed (.replicate 0)
  marks : (Pipeline.acquire.runOn h).2.world.world.marks = h.world.world.marks ++ [m]
  /-- All that has ended so far is behind the new mark. -/
  ended : (front h.world.world).ended.length ≤ m.ended
  histories : (front h.world.world).Extends (front (Pipeline.acquire.runOn h).2.world.world)
  driver : AdcDma.Invariant (SharedRing.base σ) .between (some m) (Pipeline.acquire.runOn h).2.world
  /-- The samples that follow are numbered from the first slot and the first channel on. -/
  follow {v : Driven σ} (passes : Passes (Pipeline.acquire.runOn h).2.world v) {k : Nat}
    {x : Stored} (hx : v.stored[k]? = some x) :
    x.address = slotAddress (SharedRing.base σ) k ∧ x.input = channelInputs.get (.ofIndex k)

/-- What an acquisition with a fault does: it starts the transfer anew. -/
theorem Kept.acquire_faulted {h : Board σ} (k : Kept h) {n : UInt32} {v : Driven σ}
    (hw : Sampler.written.runOn h.world = (.ok n, v)) (hpass : Passes h.world v) {f : Fault}
    (hfault : health (h.own.backlog n) = some f) :
    (Pipeline.acquire.runOn h).1 = .ok ⟨.replicate 0, some f⟩ ∧ ∃ m, Rearmed h m := by
  obtain ⟨p, u⟩ := h
  have hv := hpass.invariant SharedRing.aligned k.driver
  obtain ⟨x, m, hrestart, hmarks, hx, hended, hgrows⟩ := AdcDma.restart_rearms hv f
  rw [← k.transfer] at hrestart
  have hdrained := drained_restarted k.cleared hw hfault hrestart
  have hrun := acquire_restarted k.cleared hw hfault hrestart
  have hlog : Passes x ((log (.averages (.replicate 0))).runOn x).2 := .log _ x
  generalize ((log (.averages (.replicate 0))).runOn x).2 = y at hlog hrun
  have hall : y.world.marks = u.world.marks ++ [m] := by rw [hlog.marks, hmarks, hpass.marks]
  have hy := hlog.invariant SharedRing.aligned hx
  have hreturned : (Pipeline.acquire.runOn (⟨p, u⟩ : Board σ)).1 = _ := congrArg Prod.fst hrun
  have hown := congrArg (fun r => r.2.own) hrun
  have hworld : (Pipeline.acquire.runOn (⟨p, u⟩ : Board σ)).2.world = y :=
    congrArg (fun r => r.2.world) hrun
  refine ⟨hreturned, m, ?_⟩
  constructor
  case drained => exact hdrained
  case own => exact hown
  case marks => rw [hworld, hall]
  case ended => exact Nat.le_trans hpass.grows.ended.length_le hended
  case histories =>
    rw [hworld]
    exact (hpass.grows.trans hgrows).trans hlog.grows
  case driver => rw [hworld]; exact hy
  case follow =>
    rw [hworld]
    intro w hpass' i z hz
    exact hpass'.numbered SharedRing.aligned (Marked.mark_of_concat hall) (hy.armed m rfl) hz

/-! ## Along a run -/

/-- **An acquisition keeps what holds between acquisitions.** -/
theorem Kept.acquire {h : Board σ} (k : Kept h) :
    Kept (Pipeline.acquire.runOn h).2 ∧ Later h (Pipeline.acquire.runOn h).2 := by
  obtain ⟨n, v, hw⟩ := exists_written h.world
  obtain ⟨hpass, hn⟩ := written_counts k.driver hw
  cases hhealth : health (h.own.backlog n) with
  | none =>
    obtain ⟨-, -, hown, hlog⟩ := k.acquire_healthy hw hhealth
    have hread := (Passes.readFrom h.own.consumed (h.own.backlog n).toNat v).trans hlog
    have hall := hpass.trans hread
    refine ⟨⟨?_, ?_, ?_, ?_⟩, later_passes hall⟩
    · rw [hown]; exact k.ring
    · rw [hown]; exact cleared_closed _ _
    · exact hall.mark ▸ hall.invariant SharedRing.aligned k.driver
    · rw [hown]
      show n.toNat ≤ _
      rw [hn]
      exact hread.stored.length_le
  | some f =>
    obtain ⟨-, m, hrearmed⟩ := k.acquire_faulted hw hpass hhealth
    have hmark := Marked.mark_of_concat hrearmed.marks
    refine ⟨⟨?_, ?_, ?_, ?_⟩, hrearmed.histories, hrearmed.marks ▸ List.prefix_append _ _⟩
    · rw [hrearmed.own]; exact k.ring
    · rw [hrearmed.own]; exact cleared_closed _ _
    · exact hmark ▸ hrearmed.driver
    · rw [hrearmed.own]; exact Nat.zero_le _

/-- **Conversions and acquisitions keep what holds between acquisitions**, and take nothing off the
histories. -/
theorem Leads.kept {h h' : Board σ} (l : Leads h h') (k : Kept h) : Kept h' ∧ Later h h' := by
  induction l with
  | refl => exact ⟨k, later_passes (.refl _)⟩
  | passes _ hpass ih =>
    obtain ⟨k', hlater⟩ := ih
    exact ⟨k'.passes hpass, hlater.trans (later_passes hpass)⟩
  | acquire _ ih =>
    obtain ⟨k', hlater⟩ := ih
    obtain ⟨k'', hlater'⟩ := k'.acquire
    exact ⟨k'', hlater.trans hlater'⟩

/-- As long as no transfer is set up, samples are only added. -/
theorem Leads.stored {h h' : Board σ} (l : Leads h h') (k : Kept h)
    (same : h'.world.world.marks = h.world.world.marks) : h.world.stored <+: h'.world.stored := by
  obtain ⟨-, hlater⟩ := l.kept k
  have hmark : h'.world.world.mark = h.world.world.mark := congrArg List.getLast? same
  cases hm : h.world.world.mark with
  | none =>
    rw [Driven.stored, hm]
    exact List.nil_prefix
  | some m =>
    rw [stored_eq hm, stored_eq (hmark.trans hm)]
    exact hlater.histories.storedSince m

end Board

end SensorBoard
