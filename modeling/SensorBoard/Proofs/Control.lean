import SensorBoard.Proofs.Observed
import SensorBoard.Proofs.Safety
import SensorBoard.Rig.Basic

/-!
# How the sampler is controlled

A transfer must not be set up while the sampler runs, and a sampler that was halted must be let go
on, also when setting up failed. This module says which calls an acquisition makes, on every exit,
and what each failure leaves of the reader. Nothing here assumes anything of the sampler.

After the calls come the windows, which are closed one after the other, and each checks its average
first. A window that holds a sum that no samples have would stop the closing half way, with some of
the averages replaced and all calls returned. No run leads to such a window, so what is said of the
averages is said along the runs from a new reader.

* `Episode`: the courses that the calls of one acquisition can take.
* `outcome_observe`: what every acquisition leaves, by the calls that it makes.
* `Controlled`: the calls are an episode, recoveries count the complete ones, and a call that fails
  changes nothing but the cursor.
* `Contained`: only the failure of a call ends an acquisition early, and no average is replaced then.
* `acquire_controlled`: **every acquisition is controlled, from any state, and contained in every
  run** from a new reader.
-/

namespace SensorBoard.Pipeline

variable {σ : Type} [Sampler σ] [Logger σ] [CriticalSection σ] {p : Pipeline} {o : Observed σ}

/-- The calls of one acquisition, by the course that it takes. -/
inductive Episode (p : Pipeline) : List Call → Prop
  /-- The sampler fails to give its count. -/
  | unanswered (e : SamplerCall) : Episode p [.written (.error e)]
  /-- The backlog can be drained. -/
  | healthy (n : UInt32) (drainable : 1 ≤ (n - p.consumed).toNat ∧ (n - p.consumed).toNat ≤ 224) :
    Episode p [.written (.ok n)]
  /-- The backlog is a fault, and the sampler fails to halt. -/
  | notHalted (n : UInt32) (fault : ¬(1 ≤ (n - p.consumed).toNat ∧ (n - p.consumed).toNat ≤ 224))
    (e : SamplerCall) : Episode p [.written (.ok n), .halt (.error e)]
  /-- The backlog is a fault; the halted sampler is set up, and resumed in any case. -/
  | reconfigured (n : UInt32)
    (fault : ¬(1 ≤ (n - p.consumed).toNat ∧ (n - p.consumed).toNat ≤ 224))
    (configured resumed : Except SamplerCall Unit) :
    Episode p [.written (.ok n), .halt (.ok ()), .configure ⟨p.ring, 256, 0b1111⟩ configured,
      .resume resumed]

/-- The calls include a complete recovery. -/
def Recovered (cs : List Call) : Prop :=
  .halt (.ok ()) ∈ cs ∧ (∃ t, .configure t (.ok ()) ∈ cs) ∧ .resume (.ok ()) ∈ cs

/-! ## What the parts of an acquisition put on record -/

omit [CriticalSection σ] in
theorem calls_drain (n : Nat) (p : Pipeline) (o : Observed σ) :
    ((drain n).runOn (⟨p, o⟩ : Held Pipeline (Observed σ))).2.world.calls = o.calls :=
  drain_keeps (I := fun o' : Observed σ => o'.calls = o.calls) (fun _ _ h => h) (fun _ _ h => h) n p
    rfl

omit [Sampler σ] [CriticalSection σ] in
/-- The end of a tick, whether or not it is reached, makes no call and counts no recovery, and only
an average that is out of range leaves it half done. -/
theorem follow_finish_frame (fault : Option Fault)
    (x : Except Fatal Unit × Held Pipeline (Observed σ)) :
    let h := (Attempt.follow (fun () => finish fault) x).2
    h.world.calls = x.2.world.calls ∧ h.own.recoveries = x.2.own.recoveries ∧
      ∀ e, (Attempt.follow (fun () => finish fault) x).1 = .error e → e ≠ .averageOutOfRange →
        h.own.averages = x.2.own.averages := by
  rcases x with ⟨_ | _, h⟩
  · exact ⟨rfl, rfl, fun _ _ _ => rfl⟩
  -- also when closing the windows fails, nothing but the windows changes
  obtain ⟨hw, ho⟩ := onlyWindows_publishAll h
  have hc := congrArg Observed.calls hw
  have hr := congrArg recoveries ho
  have hfail := failsByAverage_publishAll h
  simp only [Attempt.follow_ok, finish, Attempt.runOn_bind]
  generalize publishAll.runOn h = y at hc hr hfail ⊢
  rcases y with ⟨e' | _, _⟩
  · refine ⟨hc, hr, fun e he hne => absurd ?_ hne⟩
    cases he
    exact hfail _ rfl
  · exact ⟨hc, hr, fun e he => by cases he⟩

theorem calls_restart (f : Fault) (t : Transfer) (o : Observed σ) :
    let r := (restart f t).runOn o
    (∃ e, r.1 = .error e ∧ r.2.calls = o.calls ++ [.halt (.error e)]) ∨
    ∃ c s : Except SamplerCall Unit, r.1 = c.bind (fun () => s) ∧
      r.2.calls = o.calls ++ [.halt (.ok ()), .configure t c, .resume s] := by
  rcases restart_cases f t o with ⟨e, o₁, hh, hr⟩ | ⟨o₁, c, o₂, s, o₃, hh, hc, hs, hr⟩ <;>
    rw [hr] <;> have hh := (Observed.recorded .halt hh).1
  · exact .inl ⟨e, rfl, hh⟩
  · have hc := (Observed.recorded (.configure t) hc).1
    have hs := (Observed.recorded .resume hs).1
    refine .inr ⟨c, s, rfl, ?_⟩
    rw [hs, Observed.calls_leave, hc, Observed.calls_enter, Observed.calls_log, hh,
      Observed.calls_log]
    simp

/-- What an acquisition leaves, by the calls that it makes. -/
inductive Outcome (p : Pipeline) (r : Except Fatal Acquisition × Held Pipeline (Observed σ)) : Prop
  | unanswered (e : SamplerCall) (made : r.2.world.calls = [.written (.error e)])
      (failed : r.1 = .error (.sampler e)) (own : r.2.own = p)
  | healthy (n : UInt32) (drainable : health (p.backlog n) = none)
      (made : r.2.world.calls = [.written (.ok n)])
      (returned : p.Cleared → ∃ a, r.1 = .ok a) (recoveries : r.2.own.recoveries = p.recoveries)
      (averages : ∀ e, r.1 = .error e → e ≠ .averageOutOfRange → r.2.own.averages = p.averages)
  | notHalted (n : UInt32) (fault : health (p.backlog n) ≠ none) (e : SamplerCall)
      (made : r.2.world.calls = [.written (.ok n), .halt (.error e)])
      (failed : r.1 = .error (.sampler e)) (own : r.2.own = p.rewound)
  | reconfigured (n : UInt32) (fault : health (p.backlog n) ≠ none)
      (c s : Except SamplerCall Unit) (e : SamplerCall) (first : (c.bind fun () => s) = .error e)
      (made : r.2.world.calls =
        [.written (.ok n), .halt (.ok ()), .configure p.transfer c, .resume s])
      (failed : r.1 = .error (.sampler e)) (own : r.2.own = p.rewound)
  | restarted (n : UInt32) (fault : health (p.backlog n) ≠ none)
      (made : r.2.world.calls =
        [.written (.ok n), .halt (.ok ()), .configure p.transfer (.ok ()), .resume (.ok ())])
      (returned : p.Cleared → ∃ a, r.1 = .ok a)
      (recoveries : r.2.own.recoveries = p.recoveries + 1)
      (averages : ∀ e, r.1 = .error e → e ≠ .averageOutOfRange → r.2.own.averages = p.averages)

/-- **Every acquisition has one of these outcomes**, also from a reader whose windows are not
empty. -/
theorem outcome_observe (h : Held Pipeline σ) : Outcome h.own (observe h) := by
  obtain ⟨p, w⟩ := h
  rcases hw : Sampler.written.runOn ({ world := w } : Observed σ) with ⟨e | n, o₁⟩ <;>
    have ho₁ := (Observed.recorded .written hw).1
  · rw [observe, acquire_unanswered hw]
    exact .unanswered e ho₁ rfl rfl
  have hacq := runOn_acquire_answered (p := p) hw
  cases hn : health (p.backlog n) with
  | none =>
    rw [hn] at hacq
    obtain ⟨hc, hr, ha⟩ := follow_finish_frame none ((drain (p.backlog n).toNat).runOn ⟨p, o₁⟩)
    obtain ⟨-, hr', ha'⟩ := drain_frame (p.backlog n).toNat p o₁
    refine .healthy n hn ?_ (fun hp => ?_) ?_ ?_ <;> rw [observe]
    · rw [hacq, hc, calls_drain]; exact ho₁
    · rw [acquire_healthy hp hw hn]
      exact ⟨_, rfl⟩
    · rw [hacq, hr]; exact hr'
    · rw [hacq]
      exact fun e he hne => (ha e he hne).trans ha'
  | some f =>
    have hf : health (p.backlog n) ≠ none := by simp [hn]
    have hcalls := calls_restart f p.transfer o₁
    rw [ho₁] at hcalls
    rcases hres : (restart f p.transfer).runOn o₁ with ⟨e | _, o₂⟩ <;> rw [hres] at hcalls
    · rw [observe, acquire_notRestarted hw hn hres]
      obtain ⟨e', he, hc⟩ | ⟨c, s, hcs, hc⟩ := hcalls
      · cases he
        exact .notHalted n hf e hc rfl rfl
      · exact .reconfigured n hf c s e hcs.symm hc rfl rfl
    · rw [hn] at hacq
      simp only [runOn_recover, hres] at hacq
      obtain ⟨e, he, -⟩ | ⟨c, s, hcs, hc⟩ := hcalls
      · cases he
      -- both calls succeeded, or the restart would have failed with the first that did not
      obtain ⟨rfl, rfl⟩ : c = .ok () ∧ s = .ok () := by
        rcases c with _ | _ <;> rcases s with _ | _ <;> simp_all [Except.bind]
      obtain ⟨hc', hr', ha'⟩ := follow_finish_frame (some f) (.ok (), ⟨p.restarted, o₂⟩)
      refine .restarted n hf ?_ (fun hp => ?_) ?_ ?_ <;> rw [observe]
      · rw [hacq, hc']; exact hc
      · rw [acquire_restarted hp hw hn hres]
        exact ⟨_, rfl⟩
      · rw [hacq, hr']; rfl
      · rw [hacq]; exact ha'

/-! ## What follows from the outcomes -/

theorem own_acquire (h : Held Pipeline σ) : (acquire.runOn h).2.own = (observe h).2.own := by
  rw [runOn_acquire_eq_observe]; rfl

theorem fst_acquire (h : Held Pipeline σ) : (acquire.runOn h).1 = (observe h).1 := by
  rw [runOn_acquire_eq_observe]

theorem episode_calls (h : Held Pipeline σ) : Episode h.own (calls h) := by
  have hdrain (n : UInt32) := health_eq_none_iff (u := h.own.backlog n)
  rw [calls]
  cases outcome_observe h with
  | unanswered e made => rw [made]; exact .unanswered e
  | healthy n drainable made => rw [made]; exact .healthy n ((hdrain n).1 drainable)
  | notHalted n fault e made => rw [made]; exact .notHalted n (mt (hdrain n).2 fault) e
  | reconfigured n fault c s e first made =>
    rw [made]; exact .reconfigured n (mt (hdrain n).2 fault) c s
  | restarted n fault made =>
    rw [made]; exact .reconfigured n (mt (hdrain n).2 fault) (.ok ()) (.ok ())

/-- **Complete recoveries count, and nothing else does.** -/
theorem recoveries_acquire (h : Held Pipeline σ) :
    (Recovered (calls h) → (acquire.runOn h).2.own.recoveries = h.own.recoveries + 1) ∧
      (¬Recovered (calls h) → (acquire.runOn h).2.own.recoveries = h.own.recoveries) := by
  rw [own_acquire, calls]
  cases outcome_observe h with
  | unanswered e made failed own => rw [made, own]; simp [Recovered]
  | healthy n drainable made returned recoveries => rw [made, recoveries]; simp [Recovered]
  | notHalted n fault e made failed own => rw [made, own]; simp [Recovered, rewound]
  | reconfigured n fault c s e first made failed own =>
    rw [made, own]
    -- one of the two calls has failed
    have : ¬(c = .ok () ∧ s = .ok ()) := by rintro ⟨rfl, rfl⟩; cases first
    simpa [Recovered, rewound, eq_comm] using this
  | restarted n fault made returned recoveries => rw [made, recoveries]; simp [Recovered]

theorem own_of_unanswered (h : Held Pipeline σ) {e : SamplerCall}
    (he : .written (.error e) ∈ calls h) : (acquire.runOn h).2.own = h.own := by
  rw [calls] at he
  rw [own_acquire]
  cases outcome_observe h with
  | unanswered e made failed own => exact own
  | healthy n drainable made => simp [made] at he
  | notHalted n fault e made => simp [made] at he
  | reconfigured n fault c s e first made => simp [made] at he
  | restarted n fault made => simp [made] at he

theorem own_of_aborted (h : Held Pipeline σ) {c : Call} (hc : c ∈ (calls h).tail)
    (hf : c.failure ≠ none) : (acquire.runOn h).2.own = h.own.rewound := by
  rw [calls] at hc
  rw [own_acquire]
  cases outcome_observe h with
  | unanswered e made => simp [made] at hc
  | healthy n drainable made => simp [made] at hc
  | notHalted n fault e made failed own => exact own
  | reconfigured n fault c s e first made failed own => exact own
  | restarted n fault made =>
    -- after a complete restart there is no failure to speak of
    have hnone : ∀ c ∈ (observe h).2.world.calls.tail, c.failure = none := by
      rw [made]; simp [Call.failure]
    exact absurd (hnone c hc) hf

theorem fst_of_failure (h : Held Pipeline σ) {e : SamplerCall}
    (he : (calls h).findSome? Call.failure = some e) :
    (acquire.runOn h).1 = .error (.sampler e) := by
  rw [calls] at he
  rw [fst_acquire]
  cases outcome_observe h with
  | unanswered e' made failed => rw [made] at he; cases he; exact failed
  | healthy n drainable made => rw [made] at he; cases he
  | notHalted n fault e' made failed => rw [made] at he; cases he; exact failed
  | reconfigured n fault c s e' first made failed =>
    rw [made] at he
    rw [failed]
    rcases c with _ | _ <;> rcases s with _ | _ <;> cases first <;> cases he <;> rfl
  | restarted n fault made => rw [made] at he; cases he

theorem returns_of_no_failure (h : Held Pipeline σ) (hp : h.own.Cleared)
    (hc : ∀ c ∈ calls h, c.failure = none) : ∃ a, (acquire.runOn h).1 = .ok a := by
  rw [calls] at hc
  rw [fst_acquire]
  cases outcome_observe h with
  | unanswered e made => simp [made, Call.failure] at hc
  | healthy n drainable made returned => exact returned hp
  | notHalted n fault e made => simp [made, Call.failure] at hc
  | reconfigured n fault c s e first made =>
    rw [made] at hc
    rcases c with _ | _ <;> rcases s with _ | _ <;> cases first <;> simp [Call.failure] at hc
  | restarted n fault made returned => exact returned hp

/-- From any state: a failure keeps the averages, unless it is the closing of the windows that
fails. -/
theorem averages_of_failure (h : Held Pipeline σ) {e : Fatal}
    (he : (acquire.runOn h).1 = .error e) (hne : e ≠ .averageOutOfRange) :
    (acquire.runOn h).2.own.averages = h.own.averages := by
  rw [fst_acquire] at he
  rw [own_acquire]
  cases outcome_observe h with
  | unanswered e' made failed own => rw [own]
  | healthy n drainable made returned recoveries averages => exact averages e he hne
  | notHalted n fault e' made failed own => rw [own]; rfl
  | reconfigured n fault c s e' first made failed own => rw [own]; rfl
  | restarted n fault made returned recoveries averages => exact averages e he hne

/-- How an acquisition from a state controls the sampler, and what a call that fails leaves. -/
structure Controlled (h : Held Pipeline σ) : Prop where
  /-- The calls take one of the courses. -/
  episode : Episode h.own (calls h)
  /-- A complete recovery counts, modulo `2 ^ 32`. -/
  recovered : Recovered (calls h) →
    (acquire.runOn h).2.own.recoveries = h.own.recoveries + 1
  /-- Nothing else counts. -/
  unrecovered : ¬Recovered (calls h) →
    (acquire.runOn h).2.own.recoveries = h.own.recoveries
  /-- The first of the calls that fail ends the acquisition. -/
  failed : ∀ e, (calls h).findSome? Call.failure = some e →
    (acquire.runOn h).1 = .error (.sampler e)
  /-- A sampler that gives no count changes nothing. -/
  unanswered : ∀ e, .written (.error e) ∈ calls h → (acquire.runOn h).2.own = h.own
  /-- A later failure resets the cursor and changes nothing else. -/
  aborted : ∀ c ∈ (calls h).tail, c.failure ≠ none →
    (acquire.runOn h).2.own = { h.own with consumed := 0 }

theorem controlled (h : Held Pipeline σ) : Controlled h where
  episode := episode_calls h
  recovered := (recoveries_acquire h).1
  unrecovered := (recoveries_acquire h).2
  failed _ := fst_of_failure h
  unanswered _ := own_of_unanswered h
  aborted _ := own_of_aborted h

/-- An acquisition from a state comes to its end, or replaces no average. -/
structure Contained (h : Held Pipeline σ) : Prop where
  /-- Only the failure of a call keeps the acquisition from returning. -/
  returned : (∀ c ∈ calls h, c.failure = none) → ∃ a, (acquire.runOn h).1 = .ok a
  /-- The averages are replaced only if the acquisition returns. -/
  averages_kept : ∀ e, (acquire.runOn h).1 = .error e →
    (acquire.runOn h).2.own.averages = h.own.averages

/-- With empty windows the closing cannot fail, which leaves the calls. -/
theorem contained_of_ready {h : Held Pipeline σ} (hp : h.own.Ready) : Contained h where
  returned := returns_of_no_failure h hp.cleared
  averages_kept e he := by
    obtain ⟨-, hsampler, -⟩ := ready_acquire hp h.world
    obtain ⟨call, rfl⟩ := hsampler e he
    exact averages_of_failure h he (by simp)

/-- **The sampler is controlled in every acquisition**, from any state and over any sampler, and
**along every run from a new reader** an acquisition that fails has replaced no average. -/
theorem acquire_controlled :
    (∀ h : Held Pipeline σ, Controlled h) ∧
      ∀ (ring : UInt32) (w : σ) (fs : List (σ → σ)), Along Contained ⟨{ ring }, w⟩ fs :=
  ⟨controlled, fun ring _ fs => along_of_ready (fun _ => contained_of_ready) (ready_new ring) fs⟩

/-- A window with a sum that one sample cannot have, over a sampler that stands still: every call
returns, the acquisition does not, and the average 7 of the channel before is gone. -/
example :
    let h : Held Pipeline Rig := ⟨{
      ring := 0
      channels := ⟨{ average := 7 }, { total := 2049, count := 1 }, {}, {}⟩ }, .start 0 0 0⟩
    (calls h).findSome? Call.failure = none ∧ (acquire.runOn h).1 = .error .averageOutOfRange ∧
      (acquire.runOn h).2.own.averages = .replicate 0 :=
  ⟨rfl, rfl, rfl⟩

end SensorBoard.Pipeline
