import SensorBoard.Proofs.Observed

/-!
# Samplers that conform

Nothing was assumed of the sampler so far. One that does its job stores every sample at the slot of
its count and then counts it, and counts from 0 when it is set up. `Feed` is such a sampler's ring
and count, with the samples it has delivered kept as a history.

* `Feed.deliver`, `Feed.asked`, `Feed.setUp`: what can happen to a feed.
* `Feed.Ahead`: how samples are found in the ring by their counts; `Ahead.deliverAll` says that
  deliveries keep it, over any number of wraps of ring and count.
* `Conforming`: a world whose sampler has a feed. Any call may fail, and samples may also come while
  the sampler is being halted or resumed.
* `Turn`: deliveries between two acquisitions.
* `Supply`: a world that conforms.
-/

namespace SensorBoard

/-- A sampler's ring and count, and the samples it has delivered, each with the count it came at. -/
structure Feed where
  ring : SampleRing := .zero
  count : UInt32 := 0
  /-- The samples from before the sampler was last asked for its count or set up. -/
  old : List (UInt32 × Int16) := []
  /-- The samples from after that. -/
  fresh : List (UInt32 × Int16) := []

namespace Feed

variable {f : Feed} {n : UInt32} {ss : List Int16}

/-- All samples delivered, the oldest first. -/
def all (f : Feed) : List (UInt32 × Int16) := f.old ++ f.fresh

/-- A sample goes to the slot of the count, and is counted. -/
def deliver (f : Feed) (s : Int16) : Feed :=
  { f with
    ring := f.ring.write (ringIndex f.count) s
    count := f.count + 1
    fresh := f.fresh ++ [(f.count, s)] }

def deliverAll (f : Feed) (ss : List Int16) : Feed := ss.foldl deliver f

def asked (f : Feed) : Feed := { f with old := f.all, fresh := [] }

/-- The sampler is set up. -/
def setUp (f : Feed) : Feed := { f with count := 0, old := f.all, fresh := [] }

@[simp] theorem all_asked (f : Feed) : f.asked.all = f.all := List.append_nil _

@[simp] theorem all_setUp (f : Feed) : f.setUp.all = f.all := List.append_nil _

theorem fresh_deliverAll (f : Feed) (ss : List Int16) :
    (f.deliverAll ss).old = f.old ∧ (f.deliverAll ss).fresh = f.fresh ++ numbered f.count ss := by
  induction ss generalizing f with
  | nil => exact ⟨rfl, (List.append_nil _).symm⟩
  | cons s ss ih =>
    obtain ⟨h₁, h₂⟩ := ih (f.deliver s)
    refine ⟨h₁, h₂.trans ?_⟩
    exact List.append_assoc ..

theorem all_deliverAll (f : Feed) (ss : List Int16) :
    (f.deliverAll ss).all = f.all ++ numbered f.count ss := by
  obtain ⟨h₁, h₂⟩ := fresh_deliverAll f ss
  rw [all, h₁, h₂, ← List.append_assoc, ← all]

/-- A feed is ahead of a count by samples: it has counted them, and the last 256 are in the ring at
the slots of their counts. -/
structure Ahead (f : Feed) (n : UInt32) (ss : List Int16) : Prop where
  count : f.count = n + ss.length.toUInt32
  read : ∀ {k s}, ss[k]? = some s → ss.length ≤ k + 256 →
    f.ring.read (ringIndex (n + k.toUInt32)) = s

theorem ahead_nil (f : Feed) : f.Ahead f.count [] := ⟨(UInt32.add_zero _).symm, by simp⟩

theorem slot_ringIndex (n : UInt32) : (SampleRing.slot (ringIndex n)).val = n.toNat % 256 := by
  show (ringIndex n).toNat % 256 = _
  rw [toNat_ringIndex, Nat.mod_mod]

theorem slot_ringIndex_add (n : UInt32) (k : Nat) :
    (SampleRing.slot (ringIndex (n + k.toUInt32))).val = (n.toNat + k) % 256 := by
  show (ringIndex (n + k.toUInt32)).toNat % 256 = _
  rw [toNat_ringIndex_add, Nat.mod_mod]

theorem Ahead.deliver (h : f.Ahead n ss) (s : Int16) : (f.deliver s).Ahead n (ss ++ [s]) where
  count := by
    show f.count + 1 = _
    rw [h.count, count_add_one, List.length_append, List.length_singleton]
  read := by
    intro k s' hk hlen
    rw [List.length_append, List.length_singleton] at hlen
    show (f.ring.write (ringIndex f.count) s).read _ = s'
    rw [SampleRing.read_write, h.count]
    simp only [Fin.ext_iff, slot_ringIndex_add]
    rcases getElem?_snoc hk with hk | ⟨rfl, rfl⟩
    -- what is overwritten is 256 samples back, and no longer asked for
    · have hlt := (List.getElem?_eq_some_iff.1 hk).1
      rw [if_neg (by omega)]
      exact h.read hk (by omega)
    · rw [if_pos rfl]

/-- **Deliveries put a feed ahead by just the samples delivered**, over any number of wraps. -/
theorem Ahead.deliverAll (h : f.Ahead n ss) (ts : List Int16) :
    (f.deliverAll ts).Ahead n (ss ++ ts) := by
  induction ts generalizing f ss with
  | nil => rwa [List.append_nil]
  | cons t ts ih =>
    have := ih (h.deliver t)
    rwa [List.append_assoc] at this

theorem ahead_setUp (f : Feed) : f.setUp.Ahead 0 [] := ahead_nil f.setUp

/-- The reader's backlog is what the feed is ahead by, modulo `2 ^ 32`. -/
theorem toNat_count_sub (h : f.count = n + ss.length.toUInt32) :
    (f.count - n).toNat = ss.length % UInt32.size := by
  rw [h, UInt32.toNat_sub, UInt32.toNat_add, Nat.toUInt32_eq, UInt32.toNat_ofNat']
  have := n.toNat_lt
  rw [show UInt32.size = 4294967296 from rfl]
  omega

end Feed

/-- A world whose sampler stores and counts as it should, as long as its calls do not fail. A call
that fails has no effect, except that samples may come also while the sampler is being halted or
resumed. -/
class Conforming (σ : Type) [Sampler σ] [Logger σ] [CriticalSection σ] where
  feed : σ → Feed
  written_ok {w w' : σ} {n : UInt32} (h : Sampler.written.runOn w = (.ok n, w')) :
    n = (feed w).count ∧ feed w' = (feed w).asked
  written_error {w w' : σ} {e : SamplerCall} (h : Sampler.written.runOn w = (.error e, w')) :
    feed w' = feed w
  halt {w w' : σ} {r : Except SamplerCall Unit} (h : Sampler.halt.runOn w = (r, w')) :
    ∃ ss, feed w' = (feed w).deliverAll ss
  configure_ok {t : Transfer} {w w' : σ} (h : (Sampler.configure t).runOn w = (.ok (), w')) :
    feed w' = (feed w).setUp
  configure_error {t : Transfer} {w w' : σ} {e : SamplerCall}
    (h : (Sampler.configure t).runOn w = (.error e, w')) : feed w' = feed w
  resume {w w' : σ} {r : Except SamplerCall Unit} (h : Sampler.resume.runOn w = (r, w')) :
    ∃ ss, feed w' = (feed w).deliverAll ss
  sampleAt (i : UInt64) (w : σ) : ((Sampler.sampleAt i).runOn w).1 = (feed w).ring.read i
  feed_sampleAt (i : UInt64) (w : σ) : feed ((Sampler.sampleAt i).runOn w).2 = feed w
  feed_log (m : Message) (w : σ) : feed ((log m).runOn w).2 = feed w
  feed_enter (w : σ) : feed (CriticalSection.enter.runOn w).2 = feed w
  feed_leave (w : σ) : feed (CriticalSection.leave.runOn w).2 = feed w

export Conforming (feed)

attribute [simp] Conforming.feed_sampleAt Conforming.feed_log Conforming.feed_enter
  Conforming.feed_leave

variable {σ : Type} [Sampler σ] [Logger σ] [CriticalSection σ] [Conforming σ]

instance : Conforming (Observed σ) where
  feed o := feed o.world
  written_ok h := Conforming.written_ok (Observed.view_world.written.runOn_eq h)
  written_error h := Conforming.written_error (Observed.view_world.written.runOn_eq h)
  halt h := Conforming.halt (Observed.view_world.halt.runOn_eq h)
  configure_ok h := Conforming.configure_ok ((Observed.view_world.configure _).runOn_eq h)
  configure_error h := Conforming.configure_error ((Observed.view_world.configure _).runOn_eq h)
  resume h := Conforming.resume (Observed.view_world.resume.runOn_eq h)
  sampleAt i o := Conforming.sampleAt i o.world
  feed_sampleAt i o := Conforming.feed_sampleAt i o.world
  feed_log m o := Conforming.feed_log m o.world
  feed_enter o := Conforming.feed_enter o.world
  feed_leave o := Conforming.feed_leave o.world

@[simp] theorem feed_observed (o : Observed σ) : feed o = feed o.world := rfl

/-- What happens to a world between two acquisitions: its sampler delivers some samples. -/
structure Turn (σ : Type) [Sampler σ] [Logger σ] [CriticalSection σ] [Conforming σ] where
  move : σ → σ
  delivers (w : σ) : ∃ ss, feed (move w) = (feed w).deliverAll ss

/-! ## A world that conforms -/

/-- A feed with a sampler in front of it that fails the next call of a kind, or none. -/
structure Supply where
  feed : Feed := {}
  failing : Option SamplerCall := none

namespace Supply

variable {α : Type}

/-- A call, which fails if it is the one that should. A failure is used up. -/
def call (c : SamplerCall) (answer : Feed → α) (effect : Feed → Feed) :
    Attempt SamplerCall Supply α :=
  ExceptT.mk fun s =>
    if s.failing = some c then (.error c, { s with failing := none })
    else (.ok (answer s.feed), { s with feed := effect s.feed })

instance : Sampler Supply where
  written := call .written Feed.count Feed.asked
  halt := call .halt (fun _ => ()) id
  configure _ := call .configure (fun _ => ()) Feed.setUp
  resume := call .resume (fun _ => ()) id
  sampleAt i := return (← get).feed.ring.read i

instance : Logger Supply where
  log _ := return ()

instance : CriticalSection Supply where
  enter := return ()
  leave := return ()

theorem runOn_call (c : SamplerCall) (answer : Feed → α) (effect : Feed → Feed) (s : Supply) :
    (call c answer effect).runOn s =
      if s.failing = some c then (.error c, { s with failing := none })
      else (.ok (answer s.feed), { s with feed := effect s.feed }) := rfl

theorem call_ok {c : SamplerCall} {answer : Feed → α} {effect : Feed → Feed} {s s' : Supply} {a : α}
    (h : (call c answer effect).runOn s = (.ok a, s')) :
    a = answer s.feed ∧ s'.feed = effect s.feed := by
  rw [runOn_call] at h
  split at h
  · cases h
  · cases h
    exact ⟨rfl, rfl⟩

theorem call_error {c e : SamplerCall} {answer : Feed → α} {effect : Feed → Feed} {s s' : Supply}
    (h : (call c answer effect).runOn s = (.error e, s')) : s'.feed = s.feed := by
  rw [runOn_call] at h
  split at h
  · cases h
    rfl
  · cases h

theorem call_id {c : SamplerCall} {s s' : Supply} {r : Except SamplerCall Unit}
    (h : (call c (fun _ => ()) id).runOn s = (r, s')) : ∃ ss, s'.feed = s.feed.deliverAll ss := by
  cases r with
  | ok _ => exact ⟨[], (call_ok h).2⟩
  | error _ => exact ⟨[], call_error h⟩

instance : Conforming Supply where
  feed := feed
  written_ok := call_ok
  written_error := call_error
  halt := call_id
  configure_ok h := (call_ok h).2
  configure_error := call_error
  resume := call_id
  sampleAt _ _ := rfl
  feed_sampleAt _ _ := rfl
  feed_log _ _ := rfl
  feed_enter _ := rfl
  feed_leave _ := rfl

/-- Samples are delivered, and one of the next calls is made to fail, or none. -/
def turn (ss : List Int16) (failing : Option SamplerCall) : Turn Supply where
  move s := { feed := s.feed.deliverAll ss, failing }
  delivers _ := ⟨ss, rfl⟩

end Supply

end SensorBoard
