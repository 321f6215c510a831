import SensorBoard.Analog.Pipeline
import SensorBoard.Proofs.Average
import SensorBoard.Proofs.Rotation

/-!
# What draining does

Draining reads as many samples as it was told to, from the cursor on, whatever the ring holds. So
its effect splits in two: `readFrom` is what it does to the world, and `Pipeline.takeAll` what the
samples that were read do to the reader.

* `runOn_drain`: as long as no channel gets more samples than fit, a drain succeeds, and is just
  that.
* `Holds.takeAll`: the windows then hold exactly what was read, each sample with its own channel.
* `runOn_publishAll`: closing such windows succeeds and gives the means.
* `drain_frame`, `onlyWindows_publishAll`: what the two leave alone, whether or not they succeed.
-/

namespace SensorBoard

namespace PerChannel

variable {α : Type}

@[simp] theorem set_get (v : PerChannel α) (c : Channel) : v.set c (v.get c) = v := by
  cases c <;> rfl

end PerChannel

/-- The index into the ring of the sample with a count. -/
def ringIndex (n : UInt32) : UInt64 := n.toUInt64 % ringCapacity.toUInt64

theorem toNat_ringIndex (n : UInt32) : (ringIndex n).toNat = n.toNat % 256 := by
  rw [ringIndex, UInt64.toNat_mod, UInt32.toNat_toUInt64]; rfl

theorem toNat_ringIndex_add (n : UInt32) (k : Nat) :
    (ringIndex (n + k.toUInt32)).toNat = (n.toNat + k) % 256 := by
  rw [toNat_ringIndex, UInt32.toNat_add, Nat.toUInt32_eq, UInt32.toNat_ofNat']
  omega

/-- The channel of a sample is that of its count: the wrap of the ring does not show. -/
theorem ofSample_ringIndex (n : UInt32) : Channel.ofSample (ringIndex n) = .ofIndex n.toNat := by
  rw [← Channel.index_inj, Channel.ofSample, Channel.index_ofIndex, Channel.index_ofIndex,
    toNat_ringIndex]
  omega

/-- The averages of a numbered stream, channel by channel. -/
def meansOf (xs : List (UInt32 × Int16)) : Readings := .ofFn fun c => (meanOf (c.share xs)).toUInt16

theorem toNat_get_meansOf (xs : List (UInt32 × Int16)) (c : Channel) :
    ((meansOf xs).get c).toNat = meanOf (c.share xs) := by
  -- an average fits its word
  have h := meanOf_le (c.share xs)
  rw [meansOf, PerChannel.get_ofFn]
  exact Nat.mod_eq_of_lt (by simp; omega)

@[simp] theorem meansOf_nil : meansOf [] = .replicate 0 := rfl

namespace Pipeline

variable {σ : Type} {p : Pipeline} {xs : List (UInt32 × Int16)}

theorem index_ofSample_cursor (p : Pipeline) :
    (Channel.ofSample p.cursor).index = p.consumed.toNat % channelCount := by
  rw [show p.cursor = ringIndex p.consumed from rfl, ofSample_ringIndex, Channel.index_ofIndex]
  rfl

def Cleared (p : Pipeline) : Prop := ∀ c, (p.channels.get c).Cleared

/-- Every channel's window holds exactly the channel's part of numbered samples. -/
def Holds (p : Pipeline) (xs : List (UInt32 × Int16)) : Prop :=
  ∀ c, (p.channels.get c).Holds (c.share xs)

theorem cleared_iff_holds : p.Cleared ↔ p.Holds [] :=
  forall_congr' fun _ => Accumulator.cleared_iff_holds

/-- The reader with the sample at its cursor taken. -/
def take (p : Pipeline) (s : Int16) : Pipeline :=
  let c := Channel.ofSample p.cursor
  { p with channels := p.channels.set c ((p.channels.get c).add s), consumed := p.consumed + 1 }

def takeAll (p : Pipeline) (ss : List Int16) : Pipeline := ss.foldl take p

@[simp] theorem averages_take (p : Pipeline) (s : Int16) : (p.take s).averages = p.averages := by
  refine PerChannel.ext_get fun d => ?_
  simp only [averages, take, PerChannel.get_map, PerChannel.get_set]
  split
  · rename_i h; rw [Accumulator.average_add, h]
  · rfl

theorem takeAll_fields (p : Pipeline) (ss : List Int16) :
    (p.takeAll ss).ring = p.ring ∧ (p.takeAll ss).recoveries = p.recoveries ∧
      (p.takeAll ss).consumed = p.consumed + ss.length.toUInt32 := by
  induction ss generalizing p with
  | nil => exact ⟨rfl, rfl, (UInt32.add_zero _).symm⟩
  | cons s ss ih =>
    obtain ⟨h1, h2, h3⟩ := ih (p.take s)
    exact ⟨h1, h2, h3.trans (count_one_add ..)⟩

theorem Holds.take {s : Int16} (hp : p.Holds xs)
    (hl : ∀ c : Channel, (c.share (xs ++ [(p.consumed, s)])).length ≤ 64) :
    (p.take s).Holds (xs ++ [(p.consumed, s)]) := by
  intro d
  have hd := hl d
  have hi := index_ofSample_cursor p
  show ((p.channels.set _ _).get d).Holds _
  rw [PerChannel.get_set]
  rw [Channel.share_append, Channel.share_singleton] at hd ⊢
  -- the cursor's channel gets the sample, and no other one does
  split
  · rename_i hc
    rw [hc] at hi
    rw [if_pos hi.symm] at hd ⊢
    rw [hc]
    exact (hp d).add (by simp at hd; omega) s
  · rename_i hc
    have : p.consumed.toNat % channelCount ≠ d.index := fun h =>
      hc (Channel.index_inj.1 (hi.trans h))
    rw [if_neg this, List.append_nil]
    exact hp d

/-- **The windows hold exactly what was taken.** -/
theorem Holds.takeAll {ss : List Int16} (hp : p.Holds xs)
    (hl : ∀ c : Channel, (c.share (xs ++ numbered p.consumed ss)).length ≤ 64) :
    (p.takeAll ss).Holds (xs ++ numbered p.consumed ss) := by
  induction ss generalizing p xs with
  | nil => rw [numbered_nil, List.append_nil]; exact hp
  | cons s ss ih =>
    have hsplit : xs ++ numbered p.consumed (s :: ss) =
        (xs ++ [(p.consumed, s)]) ++ numbered (p.take s).consumed ss := by
      rw [List.append_assoc]; rfl
    rw [hsplit] at hl ⊢
    refine ih (hp.take fun c => ?_) hl
    have := hl c
    rw [Channel.share_append, List.length_append] at this
    omega

/-! ## The world's side -/

variable [Sampler σ] [Logger σ]

/-- What a drain does to the world: reads samples from a count on, and logs each. -/
def readFrom (n : UInt32) : Nat → Step σ (List Int16)
  | 0 => return []
  | k + 1 => do
    let s ← Sampler.sampleAt (ringIndex n)
    log (.drained (ringIndex n) (.ofSample (ringIndex n)) s)
    return s :: (← readFrom (n + 1) k)

theorem runOn_readFrom_succ (n : UInt32) (k : Nat) (w : σ) :
    (readFrom n (k + 1)).runOn w =
      let r := (Sampler.sampleAt (ringIndex n)).runOn w
      let t := (readFrom (n + 1) k).runOn
        ((log (.drained (ringIndex n) (.ofSample (ringIndex n)) r.1)).runOn r.2).2
      (r.1 :: t.1, t.2) := rfl

@[simp] theorem length_readFrom (n : UInt32) (k : Nat) (w : σ) :
    ((readFrom n k).runOn w).1.length = k := by
  induction k generalizing n w with
  | zero => rfl
  | succ k ih => rw [runOn_readFrom_succ, List.length_cons, ih]

theorem runOn_drainOne (p : Pipeline) (w : σ) :
    drainOne.runOn (⟨p, w⟩ : Held Pipeline σ) =
      let r := (Sampler.sampleAt p.cursor).runOn w
      let w' := ((log (.drained p.cursor (.ofSample p.cursor) r.1)).runOn r.2).2
      if (p.channels.get (.ofSample p.cursor)).count.toNat < 64 then (.ok (), ⟨p.take r.1, w'⟩)
      else (.error .channelOverfull, ⟨p, w'⟩) := by
  simp only [drainOne, Attempt.runOn_bind, Attempt.runOn_get, Attempt.follow_ok,
    Attempt.runOn_lift, Step.runOn_onWorld, log_held, runOn_onChannel,
    Accumulator.runOn_accumulate]
  split
  · rfl
  · simp only [PerChannel.set_get, Attempt.follow_error]

/-- **A drain that fits the windows succeeds**: it takes what it reads. -/
theorem runOn_drain (n : Nat) (w : σ) (hp : p.Holds xs)
    (hl : ∀ (c : Channel) (ss : List Int16), ss.length = n →
      (c.share (xs ++ numbered p.consumed ss)).length ≤ 64) :
    (drain n).runOn (⟨p, w⟩ : Held Pipeline σ) =
      let r := (readFrom p.consumed n).runOn w
      (.ok (), ⟨p.takeAll r.1, r.2⟩) := by
  induction n generalizing p xs w with
  | zero => rfl
  | succ n ih =>
    -- the samples that come cannot matter for the room, only their number does
    have hl' : ∀ (c : Channel) (s : Int16) (ss : List Int16), ss.length = n →
        (c.share ((xs ++ [(p.consumed, s)]) ++ numbered (p.take s).consumed ss)).length ≤ 64 := by
      intro c s ss hs
      have := hl c (s :: ss) (by rw [List.length_cons, hs])
      rwa [List.append_assoc]
    have hl1 : ∀ (c : Channel) (s : Int16), (c.share (xs ++ [(p.consumed, s)])).length ≤ 64 := by
      intro c s
      have := hl' c s (List.replicate n 0) List.length_replicate
      rw [Channel.share_append, List.length_append] at this
      omega
    have hroom : (p.channels.get (.ofSample p.cursor)).count.toNat < 64 := by
      have h := hl1 (.ofSample p.cursor) 0
      rw [Channel.share_append, Channel.share_singleton, if_pos (index_ofSample_cursor p).symm,
        List.length_append, List.length_singleton] at h
      rw [(hp _).2]
      omega
    rw [drain, Attempt.runOn_bind, runOn_drainOne]
    simp only [if_pos hroom, Attempt.follow_ok]
    rw [ih _ (hp.take fun c => hl1 c _) (fun c ss => hl' c _ ss), runOn_readFrom_succ]
    rfl

/-- A drain, whether or not it succeeds, leaves everything but the windows' sums and the cursor. -/
theorem drain_frame (n : Nat) (p : Pipeline) (w : σ) :
    let q := ((drain n).runOn (⟨p, w⟩ : Held Pipeline σ)).2.own
    q.ring = p.ring ∧ q.recoveries = p.recoveries ∧ q.averages = p.averages := by
  induction n generalizing p w with
  | zero => exact ⟨rfl, rfl, rfl⟩
  | succ n ih =>
    simp only [drain, Attempt.runOn_bind, runOn_drainOne]
    -- a channel that is full ends the drain with the cursor where it is
    split
    · obtain ⟨h1, h2, h3⟩ := ih (p.take _) _
      exact ⟨h1, h2, h3.trans (averages_take p _)⟩
    · exact ⟨rfl, rfl, rfl⟩

/-- What reading and logging keep true of the world is true after a drain, whether or not it
succeeds. -/
theorem drain_keeps {I : σ → Prop} (hr : ∀ i w, I w → I ((Sampler.sampleAt i).runOn w).2)
    (hm : ∀ m w, I w → I ((log m).runOn w).2) (n : Nat) (p : Pipeline) {w : σ} (hw : I w) :
    I ((drain n).runOn (⟨p, w⟩ : Held Pipeline σ)).2.world := by
  induction n generalizing p w with
  | zero => exact hw
  | succ n ih =>
    simp only [drain, Attempt.runOn_bind, runOn_drainOne]
    split
    · exact ih (p.take _) (hm _ _ (hr _ w hw))
    · exact hm _ _ (hr _ w hw)

/-! ## Closing the windows -/

omit [Sampler σ] [Logger σ]

/-- The reader with every window closed with its average. -/
def closed (p : Pipeline) (r : Readings) : Pipeline :=
  { p with channels := .ofFn fun c => .closed (r.get c) }

@[simp] theorem averages_closed (p : Pipeline) (r : Readings) : (p.closed r).averages = r :=
  PerChannel.ext_get fun c => by simp [averages, closed]

theorem cleared_closed (p : Pipeline) (r : Readings) : (p.closed r).Cleared := fun c => by
  rw [closed, PerChannel.get_ofFn]
  exact Accumulator.cleared_closed _

/-- **Closing windows that fit the ring succeeds**, and gives their averages. -/
theorem runOn_publishAll (w : σ) (hp : p.Holds xs) (hl : ∀ c : Channel, (c.share xs).length ≤ 64) :
    publishAll.runOn (⟨p, w⟩ : Held Pipeline σ) =
      (.ok (meansOf xs), ⟨p.closed (meansOf xs), w⟩) := by
  have h (c : Channel) := Accumulator.runOn_publish (hp c) (hl c)
  simp only [publishAll, Attempt.runOn_bind, runOn_onChannel, Attempt.follow_ok, PerChannel.get_set,
    h, reduceCtorEq, if_false, Attempt.runOn_pure]
  rfl

/-- If an operation fails, then for an average that is out of range. -/
def FailsByAverage {α : Type} (x : Act (Held Pipeline σ) α) : Prop :=
  ∀ h e, (x.runOn h).1 = .error e → e = .averageOutOfRange

theorem FailsByAverage.bind {α β : Type} {x : Act (Held Pipeline σ) α}
    {f : α → Act (Held Pipeline σ) β} (hx : FailsByAverage x) (hf : ∀ a, FailsByAverage (f a)) :
    FailsByAverage (x >>= f) := by
  intro h e he
  rw [Attempt.runOn_bind] at he
  rcases hr : x.runOn h with ⟨e' | a, h'⟩ <;> rw [hr] at he
  · cases he
    exact hx h e (by rw [hr])
  · exact hf a h' e he

theorem failsByAverage_publishAll :
    FailsByAverage (publishAll : Act (Held Pipeline σ) Readings) := by
  have h (c : Channel) :
      FailsByAverage (onChannel c Accumulator.publish : Act (Held Pipeline σ) UInt16) :=
    fun _ _ => Accumulator.publish_error
  exact (h _).bind fun _ => (h _).bind fun _ => (h _).bind fun _ => (h _).bind fun _ _ _ he => by
    cases he

/-- An operation touches neither the world nor anything of the reader but its windows. -/
def OnlyWindows {α : Type} (x : Act (Held Pipeline σ) α) : Prop :=
  ∀ h, (x.runOn h).2.world = h.world ∧
    (x.runOn h).2.own = { h.own with channels := (x.runOn h).2.own.channels }

theorem onlyWindows_onChannel {α : Type} (c : Channel) (x : Act Accumulator α) :
    OnlyWindows (onChannel c x : Act (Held Pipeline σ) α) :=
  fun _ => ⟨rfl, rfl⟩

theorem onlyWindows_pure {α : Type} (a : α) : OnlyWindows (pure a : Act (Held Pipeline σ) α) :=
  fun _ => ⟨rfl, rfl⟩

theorem OnlyWindows.bind {α β : Type} {x : Act (Held Pipeline σ) α}
    {f : α → Act (Held Pipeline σ) β} (hx : OnlyWindows x) (hf : ∀ a, OnlyWindows (f a)) :
    OnlyWindows (x >>= f) := by
  intro h
  obtain ⟨hw, ho⟩ := hx h
  rw [Attempt.runOn_bind]
  cases hr : x.runOn h with
  | mk r h' =>
    rw [hr] at hw ho
    cases r with
    | error e => exact ⟨hw, ho⟩
    | ok a =>
      obtain ⟨hw', ho'⟩ := hf a h'
      refine ⟨hw'.trans hw, ?_⟩
      rw [Attempt.follow_ok, ho', ho]

/-- Closing the windows, whether or not it succeeds, changes nothing but the windows. -/
theorem onlyWindows_publishAll : OnlyWindows (publishAll : Act (Held Pipeline σ) Readings) :=
  (onlyWindows_onChannel _ _).bind fun _ => (onlyWindows_onChannel _ _).bind fun _ =>
    (onlyWindows_onChannel _ _).bind fun _ => (onlyWindows_onChannel _ _).bind fun _ =>
      onlyWindows_pure _

end Pipeline

end SensorBoard
