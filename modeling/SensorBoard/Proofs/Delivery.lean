import SensorBoard.Proofs.Conform
import SensorBoard.Proofs.Safety

/-!
# Every sample once

Between a sampler that conforms and a reader that starts level with it, no sample is lost, repeated
or given to another channel, whatever the alignment of a tick, and over any number of wraps of ring
and count. Only a fault drops samples, and it drops all that came before the sampler was set up.

* `Delivered`: what an acquisition gives for the samples that came since the one before.
* `Level`: the invariant of a run, that the reader lacks just those samples.
* `run_delivered`: **along every run that no failure of a call cuts short, every acquisition gives
  what it should.**
-/

namespace SensorBoard.Pipeline

variable {σ : Type} [Sampler σ] [Logger σ] [CriticalSection σ]

/-- An acquisition ends with the failure of a call. -/
def Aborted (h : Held Pipeline σ) : Prop := ∃ e, (acquire.runOn h).1 = .error (.sampler e)

theorem not_aborted_of_isOk {h : Held Pipeline σ} (hr : (acquire.runOn h).1.isOk = true) :
    ¬Aborted h := by
  rintro ⟨e, he⟩
  rw [he] at hr
  cases hr

variable [Conforming σ]

/-- What an acquisition gives for the samples that have come since the sampler was last asked for
its count or set up. -/
structure Delivered (h : Held Pipeline σ) (xs : List (UInt32 × Int16)) (a : Acquisition) :
    Prop where
  /-- It returns. -/
  returned : (acquire.runOn h).1 = .ok a
  stalled : a.fault = some .stalled ↔ xs.length = 0
  overflow : ∀ u, a.fault = some (.overflow u) ↔ 224 < xs.length ∧ u.toNat = xs.length
  healthy : a.fault = none ↔ 1 ≤ xs.length ∧ xs.length ≤ 224
  /-- Without a fault just these samples are drained, each once, in order and into the channel of
  its count. -/
  drained : a.fault = none →
    drained h = xs.map fun x => (ringIndex x.1, Channel.ofIndex x.1.toNat, x.2)
  /-- Each channel's reading is the average of its samples, or 0. -/
  readings : a.fault = none → ∀ c : Channel,
    (a.readings.get c).toNat = 16 * clampedSum (c.share xs) / (c.share xs).length
  /-- No recovery is counted, and the reader has caught up. -/
  caughtUp : a.fault = none → (acquire.runOn h).2.own.recoveries = h.own.recoveries ∧
    (acquire.runOn h).2.own.consumed = (feed h.world).count
  /-- With a fault no sample is drained, the readings are 0, and the recovery is counted. -/
  faulted : a.fault ≠ none → Pipeline.drained h = [] ∧ a.readings = .replicate 0 ∧
    (acquire.runOn h).2.own.recoveries = h.own.recoveries + 1 ∧
    (acquire.runOn h).2.own.consumed = 0
  /-- Afterwards the reader lacks what has come since it was level with the sampler. -/
  level : (feed (acquire.runOn h).2.world).count = (acquire.runOn h).2.own.consumed +
    (feed (acquire.runOn h).2.world).fresh.length.toUInt32

/-- The reader's windows are empty, and it lacks the samples that have come since the sampler was
last asked for its count or set up. -/
structure Level (h : Held Pipeline σ) : Prop where
  cleared : h.own.Cleared
  ahead : ∃ ss, (feed h.world).fresh = numbered h.own.consumed ss ∧
    (feed h.world).Ahead h.own.consumed ss

theorem Level.move {h : Held Pipeline σ} (hl : Level h) (t : Turn σ) :
    Level ⟨h.own, t.move h.world⟩ := by
  obtain ⟨hp, ss, hf, ha⟩ := hl
  obtain ⟨ts, ht⟩ := t.delivers h.world
  refine ⟨hp, ss ++ ts, ?_, ?_⟩
  · rw [ht, (Feed.fresh_deliverAll ..).2, hf, numbered_append, ha.count]
  · rw [ht]; exact ha.deliverAll ts

theorem Level.count {h : Held Pipeline σ} (hl : Level h) :
    (feed h.world).count = h.own.consumed + (feed h.world).fresh.length.toUInt32 := by
  obtain ⟨-, ss, hf, ha⟩ := hl
  rw [hf, length_numbered]
  exact ha.count

/-- Which fault there is, by the number of samples that have come. -/
theorem health_iff {u : UInt32} {n : Nat} (hu : u.toNat = n) :
    (health u = some .stalled ↔ n = 0) ∧
      (∀ v, health u = some (.overflow v) ↔ 224 < n ∧ v.toNat = n) ∧
        (health u = none ↔ 1 ≤ n ∧ n ≤ 224) := by
  subst hu
  refine ⟨health_eq_stalled_iff, fun v => ?_, health_eq_none_iff⟩
  rw [health_eq_overflow_iff, UInt32.toNat_inj]

/-- An acquisition that no failure of a call ends either has drained the backlog or has restarted the
transfer. -/
theorem acquire_cases {h : Held Pipeline σ} (hp : h.own.Cleared) (ha : ¬Aborted h) :
    let u := (feed h.world).count - h.own.consumed
    let r := acquire.runOn h
    (∃ ss, health u = none ∧ ss.length = u.toNat ∧
        (∀ {k : Nat} {s}, ss[k]? = some s →
          (feed h.world).ring.read (ringIndex (h.own.consumed + k.toUInt32)) = s) ∧
        r.1 = .ok ⟨meansOf (numbered h.own.consumed ss), none⟩ ∧
        r.2.own = ({ h.own with consumed := (feed h.world).count } : Pipeline).closed
          (meansOf (numbered h.own.consumed ss)) ∧
        feed r.2.world = (feed h.world).asked) ∨
      ∃ f ss rs, health u = some f ∧ r.1 = .ok ⟨.replicate 0, some f⟩ ∧
        r.2.own = h.own.restarted.closed (.replicate 0) ∧
        feed r.2.world = ((feed h.world).asked.deliverAll ss).setUp.deliverAll rs := by
  obtain ⟨p, w⟩ := h
  have hx := passage_observe hp w
  have hobs := runOn_acquire_eq_observe (⟨p, w⟩ : Held Pipeline σ)
  dsimp only at hp hx ⊢
  generalize observe (⟨p, w⟩ : Held Pipeline σ) = r at hx hobs
  generalize drained (⟨p, w⟩ : Held Pipeline σ) = ds at hx
  cases hx with
  | unanswered e failed => exact absurd ⟨e, by rw [hobs]; exact failed⟩ ha
  | notSetUp f fault e failed => exact absurd ⟨e, by rw [hobs]; exact failed⟩ ha
  | notResumed f fault e failed => exact absurd ⟨e, by rw [hobs]; exact failed⟩ ha
  | healthy ss length drainable read returned own feed_eq =>
    have hnone : health ((feed w).count - p.consumed) = none := by
      rw [health_eq_none_iff, ← length]
      exact drainable
    rw [hobs]
    exact .inl ⟨ss, hnone, length, read, returned, own, feed_eq⟩
  | restarted f fault returned own ss rs feed_eq =>
    rw [hobs]
    exact .inr ⟨f, ss, rs, fault, returned, own, feed_eq⟩

/-- An acquisition makes its reader level, whatever it was before. -/
theorem level_acquire {h : Held Pipeline σ} (hp : h.own.Cleared) (ha : ¬Aborted h) :
    Level (acquire.runOn h).2 := by
  rcases acquire_cases hp ha with ⟨ss, -, -, -, -, hown, hfeed⟩ | ⟨f, ss, rs, -, -, hown, hfeed⟩
  · refine ⟨hown ▸ cleared_closed _ _, [], ?_, ?_⟩ <;> rw [hown, hfeed]
    · rfl
    · exact Feed.ahead_nil _
  · refine ⟨hown ▸ cleared_closed _ _, rs, ?_, ?_⟩ <;> rw [hown, hfeed]
    · exact (Feed.fresh_deliverAll ..).2
    · exact (Feed.ahead_setUp _).deliverAll rs

/-- **An acquisition from a level reader gives what has come**, unless a call fails, and leaves the
reader level. -/
theorem Level.acquire {h : Held Pipeline σ} (hl : Level h)
    (hlt : (feed h.world).fresh.length < UInt32.size) (ha : ¬Aborted h) :
    (∃ a, Delivered h (feed h.world).fresh a) ∧ Level (acquire.runOn h).2 := by
  obtain ⟨p, w⟩ := h
  obtain ⟨hp, ss, hf, hahead⟩ := hl
  have hl' := level_acquire hp ha
  dsimp only at hp hf hahead hlt hl' ⊢
  -- fewer than `2 ^ 32` samples have come, so the reader's backlog is their number
  have hlen : (feed w).fresh.length = ss.length := by rw [hf, length_numbered]
  have hbacklog : ((feed w).count - p.consumed).toNat = ss.length := by
    rw [Feed.toNat_count_sub hahead.count]
    exact Nat.mod_eq_of_lt (hlen ▸ hlt)
  obtain ⟨hstalled, hoverflow, hnone⟩ := health_iff (hbacklog.trans hlen.symm)
  have hx := passage_observe hp w
  have hobs := runOn_acquire_eq_observe (⟨p, w⟩ : Held Pipeline σ)
  generalize observe (⟨p, w⟩ : Held Pipeline σ) = r at hx hobs
  generalize hd : drained (⟨p, w⟩ : Held Pipeline σ) = ds at hx
  cases hx with
  | unanswered e failed => exact absurd ⟨e, by rw [hobs]; exact failed⟩ ha
  | notSetUp f fault e failed => exact absurd ⟨e, by rw [hobs]; exact failed⟩ ha
  | notResumed f fault e failed => exact absurd ⟨e, by rw [hobs]; exact failed⟩ ha
  | healthy ss' length drainable read returned own feed_eq =>
    -- what was read is what was delivered: none of it has been overwritten
    obtain rfl : ss' = ss := by
      refine List.ext_getElem (by omega) fun k h₁ h₂ => ?_
      rw [← read (List.getElem?_eq_getElem h₁)]
      exact hahead.read (List.getElem?_eq_getElem h₂) (by omega)
    have hhealth : health ((feed w).count - p.consumed) = none := hnone.2 (by omega)
    rw [hhealth] at hstalled hoverflow hnone
    refine ⟨⟨⟨meansOf (numbered p.consumed ss'), none⟩, ?_⟩, hl'⟩
    exact
      { returned := by rw [hobs]; exact returned
        stalled := hstalled
        overflow := hoverflow
        healthy := hnone
        drained := fun _ => by
          rw [hd, hf]
          simp only [ofSample_ringIndex]
        readings := fun _ c => by
          rw [hf]; exact toNat_get_meansOf _ c
        caughtUp := fun _ => by
          rw [hobs]
          change r.2.own.recoveries = _ ∧ r.2.own.consumed = _
          rw [own]
          exact ⟨rfl, rfl⟩
        faulted := fun hne => absurd rfl hne
        level := hl'.count }
  | restarted f fault returned own ts rs feed_eq =>
    rw [fault] at hstalled hoverflow hnone
    refine ⟨⟨⟨.replicate 0, some f⟩, ?_⟩, hl'⟩
    exact
      { returned := by rw [hobs]; exact returned
        stalled := hstalled
        overflow := hoverflow
        healthy := hnone
        drained := fun h => by cases h
        readings := fun h => by cases h
        caughtUp := fun h => by cases h
        faulted := fun _ => by
          rw [hobs]
          change _ ∧ _ ∧ r.2.own.recoveries = _ ∧ r.2.own.consumed = _
          rw [own]
          exact ⟨hd, rfl, rfl, rfl⟩
        level := hl'.count }

/-- **Every sample once, along every run** that starts with a level reader and that no failure of a
call cuts short. -/
theorem run_delivered {h : Held Pipeline σ} (hp : h.own.Cleared)
    (hc : h.own.consumed = (feed h.world).count) (hf : (feed h.world).fresh = [])
    (ts : List (Turn σ))
    (hrun : Along (fun h => ¬Aborted h ∧ (feed h.world).fresh.length < UInt32.size) h
      (ts.map Turn.move)) :
    Along (fun h => ∃ a, Delivered h (feed h.world).fresh a) h (ts.map Turn.move) := by
  have hl : Level h := ⟨hp, [], hf, hc ▸ Feed.ahead_nil _⟩
  clear hp hc hf
  induction ts generalizing h with
  | nil => trivial
  | cons t ts ih =>
    obtain ⟨⟨ha, hlt⟩, hrun⟩ := hrun
    obtain ⟨hd, hl'⟩ := (hl.move t).acquire hlt ha
    exact ⟨hd, ih hrun hl'⟩

/-- Such a run: four samples over the wrap of the counts, no sample, a single one, and too many. -/
theorem run_delivered_over_wrap :
    let p : Pipeline := { ring := 0, consumed := 0xFFFFFFFE }
    let s : Supply := { feed := { count := 0xFFFFFFFE } }
    let ts : List (Turn Supply) := [Supply.turn [100, -200, 300, 400] none, Supply.turn [] none,
      Supply.turn [500] none, Supply.turn (List.replicate 225 7) none]
    Along (fun h => ∃ a, Delivered h (feed h.world).fresh a) ⟨p, s⟩ (ts.map Turn.move) := by
  intro p s ts
  refine run_delivered (h := ⟨p, s⟩) ?_ rfl rfl ts ?_
  · intro c; cases c <;> exact ⟨rfl, rfl⟩
  · refine ⟨⟨not_aborted_of_isOk ?_, ?_⟩, ⟨not_aborted_of_isOk ?_, ?_⟩,
      ⟨not_aborted_of_isOk ?_, ?_⟩, ⟨not_aborted_of_isOk ?_, ?_⟩, trivial⟩ <;> decide +kernel

end SensorBoard.Pipeline
