import SensorBoard.Proofs.Acquire

/-!
# The assertions cannot fail

The assertions in an accumulator guard against more samples than the ring can hold of one channel,
and against an average above the largest possible one. They stop the board, so it matters that no
sampler can bring them about.

* `Along`: what holds before every acquisition of a run. The world may change as it likes before
  each of them, and every call of the sampler may answer anything or fail.
* `ready_acquire`: whichever way an acquisition ends, it leaves every window empty; so what holds of
  every reader with empty windows holds all along a run (`along_of_ready`).
* `assertions_unreachable`: **along every run from a new reader no assertion fails**, no sum loses a
  bit, no channel gets more than 56 samples, and no average is above 32752.
-/

namespace SensorBoard.Pipeline

variable {σ : Type} [Sampler σ] [Logger σ] [CriticalSection σ] {p : Pipeline}

/-- What holds before every acquisition of a run, with a change of the world before each. An
acquisition that fails leaves its state to the next. -/
def Along (P : Held Pipeline σ → Prop) (h : Held Pipeline σ) : List (σ → σ) → Prop
  | [] => True
  | f :: fs => P ⟨h.own, f h.world⟩ ∧ Along P (acquire.runOn ⟨h.own, f h.world⟩).2 fs

/-- What every run establishes and keeps: empty windows, and averages in range. -/
structure Ready (p : Pipeline) : Prop where
  cleared : p.Cleared
  average_le : ∀ c, (p.averages.get c).toNat ≤ 32752

theorem ready_new (ring : UInt32) : Ready { ring } := by
  constructor
  · intro c; cases c <;> exact ⟨rfl, rfl⟩
  · intro c; cases c <;> exact Nat.zero_le _

theorem ready_closed (p : Pipeline) (xs : List (UInt32 × Int16)) : (p.closed (meansOf xs)).Ready :=
  ⟨cleared_closed p _, fun c => by
    rw [averages_closed, toNat_get_meansOf]; exact meanOf_le _⟩

/-- **An acquisition leaves the reader ready, on every exit**; only the sampler can make it fail. -/
theorem ready_acquire (hp : p.Ready) (w : σ) :
    let r := acquire.runOn (⟨p, w⟩ : Held Pipeline σ)
    r.2.own.Ready ∧ (∀ e, r.1 = .error e → ∃ call, e = .sampler call) ∧
      ∀ a, r.1 = .ok a → ∀ c, (a.readings.get c).toNat ≤ 32752 := by
  have h := exit_acquire hp.cleared w
  generalize acquire.runOn (⟨p, w⟩ : Held Pipeline σ) = r at h ⊢
  cases h with
  | unanswered => exact ⟨hp, by simp, by simp⟩
  | healthy =>
    refine ⟨ready_closed _ _, by simp, ?_⟩
    rintro a ⟨⟩ c
    rw [toNat_get_meansOf]
    exact meanOf_le _
  -- the cursor is reset, but no window is touched
  | notRestarted => exact ⟨⟨hp.cleared, hp.average_le⟩, by simp, by simp⟩
  | restarted =>
    refine ⟨ready_closed _ [], by simp, ?_⟩
    rintro a ⟨⟩ c
    rw [PerChannel.get_replicate]
    exact Nat.zero_le _

/-- **What holds of every ready reader holds all along a run**, as each acquisition leaves the reader
ready for the next. -/
theorem along_of_ready {P : Held Pipeline σ → Prop} (hP : ∀ h, h.own.Ready → P h)
    {h : Held Pipeline σ} (hp : h.own.Ready) (fs : List (σ → σ)) : Along P h fs := by
  induction fs generalizing h with
  | nil => trivial
  | cons f fs ih => exact ⟨hP _ hp, ih (ready_acquire hp (f h.world)).1⟩

/-- The sums of an accumulator are exact, its samples few, and the next sample and the shift that
closes the window fit into its words. -/
structure Fits (a : Accumulator) (ss : List Int16) : Prop where
  count : a.count.toNat = ss.length
  few : ss.length ≤ 56
  total : a.total.toNat = clampedSum ss
  sum_fits : ∀ s, a.total.toNat + (clampSample s).toNat < UInt32.size
  shift_fits : a.total.toNat * 16 < UInt32.size

theorem fits_of_holds {a : Accumulator} {ss : List Int16} (h : a.Holds ss) (hl : ss.length ≤ 56) :
    Fits a ss := by
  obtain ⟨ht, hc⟩ := h
  have hsum := clampedSum_le ss
  have hsize : UInt32.size = 4294967296 := rfl
  refine ⟨hc, hl, ht, fun s => ?_, by omega⟩
  have := clampSample_le s
  omega

omit [CriticalSection σ] in
/-- **All the way through a drain the sums are exact.** -/
theorem fits_drain (hp : p.Cleared) (w : σ) {k : Nat} (hk : k ≤ 224) :
    let d := (drain k).runOn (⟨p, w⟩ : Held Pipeline σ)
    d.1 = .ok () ∧ ∀ c, Fits (d.2.own.channels.get c)
      (c.share (numbered p.consumed ((readFrom p.consumed k).runOn w).1)) := by
  have h56 (c : Channel) {ss : List Int16} (hs : ss.length = k) :
      (c.share ([] ++ numbered p.consumed ss)).length ≤ 56 :=
    c.length_share_le p.consumed (by omega)
  have h64 (c : Channel) (ss : List Int16) (hs : ss.length = k) := Nat.le_trans (h56 c hs)
    (show 56 ≤ 64 by decide)
  have hp0 := cleared_iff_holds.1 hp
  have hlen := length_readFrom p.consumed k w
  simp only [runOn_drain k w hp0 h64]
  refine ⟨trivial, fun c => fits_of_holds ?_ (h56 c hlen)⟩
  exact hp0.takeAll (fun c => h64 c _ hlen) c

/-- What is safe about an acquisition from a state. -/
structure Safe (h : Held Pipeline σ) : Prop where
  cleared : h.own.Cleared
  /-- Every window is empty after, also when the acquisition failed. -/
  cleared_after : (acquire.runOn h).2.own.Cleared
  /-- No assertion fails: if the acquisition fails, then in a call of the sampler. -/
  only_sampler : ∀ e, (acquire.runOn h).1 = .error e → ∃ call, e = .sampler call
  /-- After any number of samples of a backlog that is drained, every window's sums are exact and
  have room for one sample more and for the shift that closes the window. -/
  fits : ∀ n w₁, Sampler.written.runOn h.world = (.ok n, w₁) → health (h.own.backlog n) = none →
    ∀ k ≤ (h.own.backlog n).toNat,
      let d := (drain k).runOn (⟨h.own, w₁⟩ : Held Pipeline σ)
      d.1 = .ok () ∧ ∀ c, Fits (d.2.own.channels.get c)
        (c.share (numbered h.own.consumed ((readFrom h.own.consumed k).runOn w₁).1))
  /-- No average that is published is above the largest possible one. -/
  reading_le : ∀ a, (acquire.runOn h).1 = .ok a → ∀ c, (a.readings.get c).toNat ≤ 32752
  /-- Nor is one that is kept. -/
  average_le : ∀ c, ((acquire.runOn h).2.own.averages.get c).toNat ≤ 32752

theorem safe_of_ready {h : Held Pipeline σ} (hp : h.own.Ready) : Safe h := by
  obtain ⟨hq, herr, hread⟩ := ready_acquire hp h.world
  refine ⟨hp.cleared, hq.cleared, herr, ?_, hread, hq.average_le⟩
  intro n w₁ _ hn k hk
  exact fits_drain hp.cleared w₁ (Nat.le_trans hk (health_eq_none_iff.1 hn).2)

/-- **The assertions cannot fail**, in any run from a new reader over any sampler. -/
theorem assertions_unreachable (ring : UInt32) (w : σ) (fs : List (σ → σ)) :
    Along Safe ⟨{ ring }, w⟩ fs :=
  along_of_ready (fun _ => safe_of_ready) (ready_new ring) fs

end SensorBoard.Pipeline
