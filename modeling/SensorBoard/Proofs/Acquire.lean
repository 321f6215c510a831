import SensorBoard.Proofs.Drain

/-!
# The exits of an acquisition

`acquire` ends in one of four ways, and this module says once what each of them leaves.

* `acquire_unanswered`: the sampler failed to give its count.
* `acquire_healthy`: the backlog was drained.
* `acquire_notRestarted`: there was a fault, and restarting the transfer failed.
* `acquire_restarted`: there was a fault, and the transfer was restarted.

What a recovery does to the world is `restart`, and `runOn_recover` says that the reader's cursor is
reset whatever becomes of it, while the recovery counts only if all of it succeeded.
-/

namespace SensorBoard

/-- The fault of a backlog, by its number. -/
theorem health_eq (u : UInt32) :
    health u = if u.toNat = 0 then some .stalled
      else if 224 < u.toNat then some (.overflow u) else none := by
  have h0 : u = 0 ↔ u.toNat = 0 := by rw [← UInt32.toNat_inj]; rfl
  have ht : u > overrunThreshold ↔ 224 < u.toNat := UInt32.lt_iff_toNat_lt
  simp only [health, h0, ht]

theorem health_eq_none_iff {u : UInt32} : health u = none ↔ 1 ≤ u.toNat ∧ u.toNat ≤ 224 := by
  rw [health_eq]
  split
  · simp; omega
  · split <;> simp <;> omega

theorem health_eq_stalled_iff {u : UInt32} : health u = some .stalled ↔ u.toNat = 0 := by
  rw [health_eq]
  split
  · simp [*]
  · split <;> simp [*]

theorem health_eq_overflow_iff {u v : UInt32} :
    health u = some (.overflow v) ↔ 224 < u.toNat ∧ v = u := by
  rw [health_eq]
  split
  · simp; omega
  · split
    · simp [*, eq_comm]
    · simp; omega

namespace Pipeline

variable {σ : Type} {p : Pipeline} {w w₁ w₂ : σ}

/-- The reader with its cursor back at the start. -/
def rewound (p : Pipeline) : Pipeline := { p with consumed := 0 }

def restarted (p : Pipeline) : Pipeline :=
  { p with consumed := 0, recoveries := p.recoveries + 1 }

theorem mapError_ok {α : Type} (a : α) :
    (Except.ok a : Except SamplerCall α).mapError Fatal.sampler = .ok a := rfl

theorem backlog_add (p : Pipeline) (n : UInt32) :
    p.consumed + (p.backlog n).toNat.toUInt32 = n := by
  rw [Nat.toUInt32_eq, UInt32.ofNat_toNat, ← UInt32.toNat_inj, backlog, UInt32.toNat_add,
    UInt32.toNat_sub]
  have h₁ := p.consumed.toNat_lt
  have h₂ := n.toNat_lt
  omega

variable [Logger σ]

/-- Closing the windows at the end of a tick. -/
def finish (fault : Option Fault) : Act (Held Pipeline σ) Acquisition := do
  let readings ← publishAll
  .lift (log (.averages readings))
  return ⟨readings, fault⟩

theorem runOn_finish {xs : List (UInt32 × Int16)} (fault : Option Fault) (w : σ) (hp : p.Holds xs)
    (hl : ∀ c : Channel, (c.share xs).length ≤ 64) :
    (finish fault).runOn (⟨p, w⟩ : Held Pipeline σ) =
      (.ok ⟨meansOf xs, fault⟩,
        ⟨p.closed (meansOf xs), ((log (.averages (meansOf xs))).runOn w).2⟩) := by
  simp only [finish, Attempt.runOn_bind, runOn_publishAll w hp hl, Attempt.follow_ok,
    Attempt.runOn_lift, log_held, Step.runOn_onWorld, Attempt.runOn_pure]

variable [Sampler σ] [CriticalSection σ]

/-- Setting up a transfer on a halted sampler, which is resumed in any case. -/
def reconfigure (t : Transfer) : Attempt SamplerCall σ Unit :=
  let configure : Attempt SamplerCall σ Unit := do
    .lift (log .reconfiguring)
    .atomically (Sampler.configure t)
  configure.ensuring Sampler.resume

/-- What a recovery does to the world. -/
def restart (f : Fault) (t : Transfer) : Attempt SamplerCall σ Unit := do
  .lift (log f.message)
  Sampler.halt
  reconfigure t

/-- A reconfiguration resumes the sampler in any case; of two failures the first is reported. -/
theorem runOn_reconfigure (t : Transfer) (w : σ) :
    (reconfigure t).runOn w =
      let c := (Sampler.configure t).runOn
        (CriticalSection.enter.runOn ((log .reconfiguring).runOn w).2).2
      let r := Sampler.resume.runOn (CriticalSection.leave.runOn c.2).2
      (c.1.bind fun () => r.1, r.2) := by
  simp only [reconfigure, Attempt.runOn_ensuring, Attempt.runOn_bind, Attempt.runOn_lift,
    Attempt.follow_ok, Attempt.runOn_atomically]
  rcases (Sampler.configure t).runOn _ with ⟨_ | _, _⟩
  · rfl
  · rcases Sampler.resume.runOn _ with ⟨_ | _, _⟩ <;> rfl

theorem runOn_restart (f : Fault) (t : Transfer) (w : σ) :
    (restart f t).runOn w =
      Attempt.follow (fun () => reconfigure t)
        (Sampler.halt.runOn ((log f.message).runOn w).2) := by
  simp only [restart, Attempt.runOn_bind, Attempt.runOn_lift, Attempt.follow_ok]

/-- The calls of a restart, one after the other. -/
theorem restart_cases (f : Fault) (t : Transfer) (w : σ) :
    (∃ e w₁, Sampler.halt.runOn ((log f.message).runOn w).2 = (.error e, w₁) ∧
      (restart f t).runOn w = (.error e, w₁)) ∨
    ∃ w₁ c w₂ r w₃, Sampler.halt.runOn ((log f.message).runOn w).2 = (.ok (), w₁) ∧
      (Sampler.configure t).runOn
        (CriticalSection.enter.runOn ((log .reconfiguring).runOn w₁).2).2 = (c, w₂) ∧
      Sampler.resume.runOn (CriticalSection.leave.runOn w₂).2 = (r, w₃) ∧
      (restart f t).runOn w = (c.bind fun () => r, w₃) := by
  rw [runOn_restart]
  rcases Sampler.halt.runOn ((log f.message).runOn w).2 with ⟨e | _, w₁⟩
  · exact .inl ⟨e, w₁, rfl, rfl⟩
  · rw [Attempt.follow_ok, runOn_reconfigure]
    exact .inr ⟨w₁, _, _, _, _, rfl, rfl, rfl, rfl⟩

/-- **The cursor is reset first, and the recovery counts last.** -/
theorem runOn_recover (f : Fault) (p : Pipeline) (w : σ) :
    (recover f).runOn (⟨p, w⟩ : Held Pipeline σ) =
      match (restart f p.transfer).runOn w with
      | (.ok (), w') => (.ok (), ⟨p.restarted, w'⟩)
      | (.error e, w') => (.error (.sampler e), ⟨p.rewound, w'⟩) := by
  rw [runOn_restart]
  simp only [recover, Attempt.runOn_bind, Attempt.runOn_lift, log_held, Step.runOn_onWorld,
    Attempt.follow_ok, Attempt.runOn_onOwn, Attempt.runOn_modify, Attempt.runOn_get, runOn_call]
  rcases Sampler.halt.runOn ((log f.message).runOn w).2 with ⟨e | _, w₁⟩
  · rfl
  -- the sampler is halted: what follows is the reconfiguration, beside the reader
  simp only [mapError_ok, Attempt.follow_ok, runOn_reconfigure, Attempt.runOn_ensuring,
    Attempt.runOn_bind, Attempt.runOn_lift, Step.runOn_onWorld, Attempt.runOn_atomically,
    runOn_call, CriticalSection.enter_held, CriticalSection.leave_held]
  rw [show ({ p with consumed := 0 } : Pipeline).transfer = p.transfer from rfl]
  generalize (Sampler.configure p.transfer : Attempt SamplerCall σ Unit).runOn _ = c
  generalize (Sampler.resume : Attempt SamplerCall σ Unit).runOn _ = r
  rcases c with ⟨_ | _, _⟩ <;> rcases r with ⟨_ | _, _⟩ <;> rfl

/-! ## The four exits -/

theorem runOn_acquire_answered {n : UInt32} (hw : Sampler.written.runOn w = (.ok n, w₁)) :
    acquire.runOn (⟨p, w⟩ : Held Pipeline σ) =
      match health (p.backlog n) with
      | none => Attempt.follow (fun () => finish none)
          ((drain (p.backlog n).toNat).runOn ⟨p, w₁⟩)
      | some f => Attempt.follow (fun () => finish (some f)) ((recover f).runOn ⟨p, w₁⟩) := by
  simp only [acquire, Attempt.runOn_bind, runOn_unread, hw, mapError_ok, Except.map,
    Attempt.follow_ok]
  cases health (p.backlog n) with
  | none => exact Attempt.runOn_bind (drain _) (fun () => finish (σ := σ) none) _
  | some f => exact Attempt.runOn_bind (recover f) (fun () => finish (σ := σ) (some f)) _

/-- **Unanswered**: nothing of the reader changes. -/
theorem acquire_unanswered {e : SamplerCall} (hw : Sampler.written.runOn w = (.error e, w₁)) :
    acquire.runOn (⟨p, w⟩ : Held Pipeline σ) = (.error (.sampler e), ⟨p, w₁⟩) := by
  simp only [acquire, Attempt.runOn_bind, runOn_unread, hw]
  rfl

/-- **Healthy**: the backlog is read, taken and averaged. -/
theorem acquire_healthy {n : UInt32} (hp : p.Cleared) (hw : Sampler.written.runOn w = (.ok n, w₁))
    (hn : health (p.backlog n) = none) :
    acquire.runOn (⟨p, w⟩ : Held Pipeline σ) =
      let r := (readFrom p.consumed (p.backlog n).toNat).runOn w₁
      let xs := numbered p.consumed r.1
      (.ok ⟨meansOf xs, none⟩, ⟨({ p with consumed := n } : Pipeline).closed (meansOf xs),
        ((log (.averages (meansOf xs))).runOn r.2).2⟩) := by
  have hle := (health_eq_none_iff.1 hn).2
  -- at every alignment no channel gets more than fits its window
  have h56 (c : Channel) {ss : List Int16} (hs : ss.length = (p.backlog n).toNat) :
      (c.share ([] ++ numbered p.consumed ss)).length ≤ 64 :=
    Nat.le_trans (c.length_share_le p.consumed (by omega)) (by decide)
  have hp0 := cleared_iff_holds.1 hp
  rw [runOn_acquire_answered hw, hn]
  simp only [runOn_drain _ w₁ hp0 fun c ss => h56 c, Attempt.follow_ok]
  have hlen := length_readFrom p.consumed (p.backlog n).toNat w₁
  generalize (readFrom p.consumed (p.backlog n).toNat).runOn w₁ = r at hlen ⊢
  obtain ⟨h₁, h₂, h₃⟩ := takeAll_fields p r.1
  rw [hlen, backlog_add] at h₃
  rw [runOn_finish none r.2 (hp0.takeAll fun c => h56 c hlen) fun c => h56 c hlen, List.nil_append]
  simp only [closed, h₁, h₂, h₃]

/-- **Not restarted**: the cursor is reset all the same. -/
theorem acquire_notRestarted {n : UInt32} {f : Fault} {e : SamplerCall}
    (hw : Sampler.written.runOn w = (.ok n, w₁)) (hn : health (p.backlog n) = some f)
    (hr : (restart f p.transfer).runOn w₁ = (.error e, w₂)) :
    acquire.runOn (⟨p, w⟩ : Held Pipeline σ) = (.error (.sampler e), ⟨p.rewound, w₂⟩) := by
  rw [runOn_acquire_answered hw, hn]
  simp only [runOn_recover, hr, Attempt.follow_error]

/-- **Restarted**: the averages are 0 and the recovery counts. -/
theorem acquire_restarted {n : UInt32} {f : Fault} (hp : p.Cleared)
    (hw : Sampler.written.runOn w = (.ok n, w₁)) (hn : health (p.backlog n) = some f)
    (hr : (restart f p.transfer).runOn w₁ = (.ok (), w₂)) :
    acquire.runOn (⟨p, w⟩ : Held Pipeline σ) =
      (.ok ⟨.replicate 0, some f⟩, ⟨p.restarted.closed (.replicate 0),
        ((log (.averages (.replicate 0))).runOn w₂).2⟩) := by
  have hp0 : p.restarted.Holds [] := cleared_iff_holds.1 hp
  rw [runOn_acquire_answered hw, hn]
  simp only [runOn_recover, hr, Attempt.follow_ok]
  rw [runOn_finish (some f) w₂ hp0 fun c => by simp, meansOf_nil]

/-- The exits of an acquisition from a reader whose windows are empty: how it ends and what it
leaves. -/
inductive Exit (p : Pipeline) (w : σ) : Except Fatal Acquisition × Held Pipeline σ → Prop
  | unanswered {e : SamplerCall} {w₁ : σ} (written : Sampler.written.runOn w = (.error e, w₁)) :
    Exit p w (.error (.sampler e), ⟨p, w₁⟩)
  | healthy {n : UInt32} {w₁ w₂ : σ} {ss : List Int16} {xs : List (UInt32 × Int16)}
      (written : Sampler.written.runOn w = (.ok n, w₁)) (health : health (p.backlog n) = none)
      (read : (readFrom p.consumed (p.backlog n).toNat).runOn w₁ = (ss, w₂))
      (numbered : numbered p.consumed ss = xs) :
    Exit p w (.ok ⟨meansOf xs, none⟩, ⟨({ p with consumed := n } : Pipeline).closed (meansOf xs),
      ((log (.averages (meansOf xs))).runOn w₂).2⟩)
  | notRestarted {n : UInt32} {f : Fault} {e : SamplerCall} {w₁ w₂ : σ}
      (written : Sampler.written.runOn w = (.ok n, w₁))
      (fault : SensorBoard.health (p.backlog n) = some f)
      (restart : (restart f p.transfer).runOn w₁ = (.error e, w₂)) :
    Exit p w (.error (.sampler e), ⟨p.rewound, w₂⟩)
  | restarted {n : UInt32} {f : Fault} {w₁ w₂ : σ}
      (written : Sampler.written.runOn w = (.ok n, w₁))
      (fault : SensorBoard.health (p.backlog n) = some f)
      (restart : (restart f p.transfer).runOn w₁ = (.ok (), w₂)) :
    Exit p w (.ok ⟨.replicate 0, some f⟩, ⟨p.restarted.closed (.replicate 0),
      ((log (.averages (.replicate 0))).runOn w₂).2⟩)

/-- **An acquisition takes one of the four exits.** -/
theorem exit_acquire (hp : p.Cleared) (w : σ) : Exit p w (acquire.runOn ⟨p, w⟩) := by
  rcases hw : Sampler.written.runOn w with ⟨e | n, w₁⟩
  · rw [acquire_unanswered hw]
    exact .unanswered hw
  cases hn : health (p.backlog n) with
  | none =>
    rw [acquire_healthy hp hw hn]
    exact .healthy hw hn rfl rfl
  | some f =>
    rcases hr : (restart f p.transfer).runOn w₁ with ⟨e | _, w₂⟩
    · rw [acquire_notRestarted hw hn hr]
      exact .notRestarted hw hn hr
    · rw [acquire_restarted hp hw hn hr]
      exact .restarted hw hn hr

end Pipeline

end SensorBoard
