import SensorBoard.Proofs.Acquire

/-!
# Acquisitions under observation

A result and a state after do not say which calls were made on the way, in which order and with what
outcome. `Observed σ` is a world `σ` that also keeps a record: every call of the sampler with its
arguments and its outcome, and every message.

* `View`: a map of worlds through which every call does the same.
* `View.acquire`: an acquisition does the same through it as well.
* `Observed`: a world with a record; `view_world` says that recording changes nothing.
* `Pipeline.calls`, `Pipeline.messages`: the record of one acquisition.
-/

namespace SensorBoard

variable {ε κ σ τ α β : Type}

/-- An operation does on a world what another does on its image, also when it ends early. -/
def Attempt.Projects (π : τ → σ) (x : Attempt ε τ α) (y : Attempt ε σ α) : Prop :=
  ∀ t, y.runOn (π t) = ((x.runOn t).1, π (x.runOn t).2)

def Step.Projects (π : τ → σ) (x : Step τ α) (y : Step σ α) : Prop :=
  ∀ t, y.runOn (π t) = ((x.runOn t).1, π (x.runOn t).2)

/-- The image of the world, beside the same value. -/
def Held.view (π : τ → σ) (h : Held κ τ) : Held κ σ := ⟨h.own, π h.world⟩

theorem Attempt.Projects.runOn_eq {π : τ → σ} {x : Attempt ε τ α} {y : Attempt ε σ α}
    (hx : Projects π x y) {t t' : τ} {a : Except ε α} (h : x.runOn t = (a, t')) :
    y.runOn (π t) = (a, π t') := by
  rw [hx t, h]

theorem Attempt.Projects.bind {π : τ → σ} {x : Attempt ε τ α} {y : Attempt ε σ α}
    {f : α → Attempt ε τ β} {g : α → Attempt ε σ β} (hx : Projects π x y)
    (hf : ∀ a, Projects π (f a) (g a)) : Projects π (x >>= f) (y >>= g) := by
  intro t
  rw [runOn_bind, runOn_bind, hx t]
  rcases x.runOn t with ⟨e | a, t'⟩
  · rfl
  · exact hf a t'

section View

variable [Sampler τ] [Logger τ] [CriticalSection τ] [Sampler σ] [Logger σ] [CriticalSection σ]

/-- A map of worlds through which every call the reader makes does the same. -/
structure View (π : τ → σ) : Prop where
  written : Attempt.Projects π Sampler.written Sampler.written
  halt : Attempt.Projects π Sampler.halt Sampler.halt
  configure (t : Transfer) : Attempt.Projects π (Sampler.configure t) (Sampler.configure t)
  resume : Attempt.Projects π Sampler.resume Sampler.resume
  sampleAt (i : UInt64) : Step.Projects π (Sampler.sampleAt i) (Sampler.sampleAt i)
  log (m : Message) : Step.Projects π (log m) (log m)
  enter : Step.Projects π CriticalSection.enter CriticalSection.enter
  leave : Step.Projects π CriticalSection.leave CriticalSection.leave

namespace View

open Pipeline

variable {π : τ → σ} (v : View π)

include v

theorem restart (f : Fault) (t : Transfer) : Attempt.Projects π (restart f t) (restart f t) := by
  intro w
  rw [runOn_restart, runOn_restart, v.log _ w, v.halt _]
  rcases Sampler.halt.runOn ((SensorBoard.log f.message).runOn w).2 with ⟨e | _, w₁⟩
  · rfl
  simp only [Attempt.follow_ok, runOn_reconfigure]
  rw [v.log _ w₁, v.enter _, v.configure _ _, v.leave _, v.resume _]

theorem recover (f : Fault) :
    Attempt.Projects (Held.view π) (Pipeline.recover f) (Pipeline.recover f) := by
  rintro ⟨p, w⟩
  rw [Held.view, runOn_recover, runOn_recover, v.restart f p.transfer w]
  rcases (Pipeline.restart f p.transfer).runOn w with ⟨_ | _, w₁⟩ <;> rfl

theorem drainOne : Attempt.Projects (Held.view π) drainOne drainOne := by
  rintro ⟨p, w⟩
  rw [Held.view, runOn_drainOne, runOn_drainOne]
  simp only [v.sampleAt _ w, v.log _ _]
  split <;> rfl

theorem drain (n : Nat) : Attempt.Projects (Held.view π) (drain n) (drain n) := by
  induction n with
  | zero => exact fun _ => rfl
  | succ n ih => exact v.drainOne.bind fun _ => ih

omit v [Sampler τ] [Logger τ] [CriticalSection τ] [Sampler σ] [Logger σ] [CriticalSection σ] in
theorem publishAll :
    Attempt.Projects (Held.view π) (publishAll (σ := τ)) (publishAll (σ := σ)) := by
  have h (c : Channel) : Attempt.Projects (Held.view π)
      (onChannel (σ := τ) c Accumulator.publish) (onChannel (σ := σ) c Accumulator.publish) :=
    fun _ => rfl
  exact (h _).bind fun _ => (h _).bind fun _ => (h _).bind fun _ => (h _).bind fun _ _ => rfl

theorem finish (fault : Option Fault) :
    Attempt.Projects (Held.view π) (finish fault) (finish fault) := by
  refine publishAll.bind fun r ⟨p, w⟩ => ?_
  simp only [Held.view, Attempt.runOn_bind, Attempt.runOn_lift, log_held, Step.runOn_onWorld,
    Attempt.follow_ok, Attempt.runOn_pure]
  rw [v.log _ w]

/-- **An acquisition does on a world what it does on the image.** -/
theorem acquire : Attempt.Projects (Held.view π) acquire acquire := by
  rintro ⟨p, w⟩
  -- both worlds get the same answer, so both go the same way
  rcases hx : Sampler.written.runOn w with ⟨e | n, w₁⟩ <;> have hw := v.written.runOn_eq hx
  · rw [Held.view, acquire_unanswered hw, acquire_unanswered hx]
    rfl
  rw [Held.view, runOn_acquire_answered hw, runOn_acquire_answered hx]
  cases health (p.backlog n) with
  | none =>
    have h := (v.drain (p.backlog n).toNat).bind fun _ => v.finish none
    have := h ⟨p, w₁⟩
    rwa [Attempt.runOn_bind, Attempt.runOn_bind] at this
  | some f =>
    have h := (v.recover f).bind fun _ => v.finish (some f)
    have := h ⟨p, w₁⟩
    rwa [Attempt.runOn_bind, Attempt.runOn_bind] at this

end View

end View

/-! ## Keeping a record -/

/-- A call of the sampler that was made, with its outcome. -/
inductive Call
  | written (outcome : Except SamplerCall UInt32)
  | halt (outcome : Except SamplerCall Unit)
  | configure (transfer : Transfer) (outcome : Except SamplerCall Unit)
  | resume (outcome : Except SamplerCall Unit)

def Call.failure : Call → Option SamplerCall
  | written (.error e) | halt (.error e) | configure _ (.error e) | resume (.error e) => some e
  | _ => none

/-- A world with a record of what was asked of it. -/
structure Observed (σ : Type) where
  world : σ
  calls : List Call := []
  messages : List Message := []

namespace Observed

/-- A call, put on record with its outcome. -/
def recording (record : Except SamplerCall α → Call) (x : Attempt SamplerCall σ α) :
    Attempt SamplerCall (Observed σ) α :=
  ExceptT.mk fun o =>
    let (a, world) := x.runOn o.world
    (a, { o with world, calls := o.calls ++ [record a] })

def unrecorded (x : Step σ α) : Step (Observed σ) α := fun o =>
  let (a, world) := x.runOn o.world
  (a, { o with world })

@[simp] theorem runOn_recording (record : Except SamplerCall α → Call)
    (x : Attempt SamplerCall σ α) (o : Observed σ) :
    (recording record x).runOn o =
      let r := x.runOn o.world
      (r.1, { o with world := r.2, calls := o.calls ++ [record r.1] }) := rfl

instance [Sampler σ] : Sampler (Observed σ) where
  written := recording .written Sampler.written
  halt := recording .halt Sampler.halt
  configure t := recording (.configure t) (Sampler.configure t)
  resume := recording .resume Sampler.resume
  sampleAt i := unrecorded (Sampler.sampleAt i)

instance [Logger σ] : Logger (Observed σ) where
  -- a message is on record, and the world still gets it
  log m := fun o =>
    ((), { o with world := ((log m).runOn o.world).2, messages := o.messages ++ [m] })

instance [CriticalSection σ] : CriticalSection (Observed σ) where
  enter := unrecorded CriticalSection.enter
  leave := unrecorded CriticalSection.leave

theorem recorded (record : Except SamplerCall α → Call) {x : Attempt SamplerCall σ α}
    {o o₁ : Observed σ} {a : Except SamplerCall α} (h : (recording record x).runOn o = (a, o₁)) :
    o₁.calls = o.calls ++ [record a] ∧ o₁.messages = o.messages := by
  rw [runOn_recording] at h
  cases h
  exact ⟨rfl, rfl⟩

@[simp] theorem calls_log [Logger σ] (m : Message) (o : Observed σ) :
    ((log m).runOn o).2.calls = o.calls := rfl

@[simp] theorem messages_log [Logger σ] (m : Message) (o : Observed σ) :
    ((log m).runOn o).2.messages = o.messages ++ [m] := rfl

section

variable [CriticalSection σ] (o : Observed σ)

@[simp] theorem calls_enter : (CriticalSection.enter.runOn o).2.calls = o.calls := rfl

@[simp] theorem messages_enter : (CriticalSection.enter.runOn o).2.messages = o.messages := rfl

@[simp] theorem calls_leave : (CriticalSection.leave.runOn o).2.calls = o.calls := rfl

@[simp] theorem messages_leave : (CriticalSection.leave.runOn o).2.messages = o.messages := rfl

end

variable [Sampler σ] [Logger σ] [CriticalSection σ]

/-- **Recording changes nothing.** -/
theorem view_world : View (world : Observed σ → σ) where
  written _ := rfl
  halt _ := rfl
  configure _ _ := rfl
  resume _ := rfl
  sampleAt _ _ := rfl
  log _ _ := rfl
  enter _ := rfl
  leave _ := rfl

end Observed

namespace Pipeline

variable [Sampler σ] [Logger σ] [CriticalSection σ]

/-- An acquisition with a record of its own. -/
def observe (h : Held Pipeline σ) : Except Fatal Acquisition × Held Pipeline (Observed σ) :=
  acquire.runOn ⟨h.own, { world := h.world }⟩

/-- The calls of the sampler that an acquisition makes, in order. -/
def calls (h : Held Pipeline σ) : List Call := (observe h).2.world.calls

/-- The messages that an acquisition logs, in order. -/
def messages (h : Held Pipeline σ) : List Message := (observe h).2.world.messages

/-- **The record is of the acquisition itself**: without it the outcome and the state are the
same. -/
theorem runOn_acquire_eq_observe (h : Held Pipeline σ) :
    acquire.runOn h = ((observe h).1, (observe h).2.view Observed.world) :=
  Observed.view_world.acquire ⟨h.own, { world := h.world }⟩

end Pipeline

end SensorBoard
