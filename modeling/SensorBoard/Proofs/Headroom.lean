import SensorBoard.Proofs.Conform

/-!
# Room for a sampler that goes on

Nothing stops the sampler while a backlog is drained. What it delivers meanwhile goes to the ring
that is being read, and a slot that is overwritten too early would be read with the wrong sample.
The backlog is limited for that reason: as the reader moves on, the room for new samples grows with
it.

* `Ongoing`: a sampler that delivers any samples before each read of the ring.
* `InTime`: the bound on what may have come by each read; `inTime_of_total` has one number for it.
* `Pipeline.observe_alike`: an acquisition depends on nothing but what it reads.
* `Ongoing.readFrom_inTime`: in time, the backlog is read as it was when it was counted.
* `Pipeline.acquire_undisturbed`: **in time, an acquisition is the one that it would have been with
  the sampler at rest**, and what has come meanwhile is the next backlog.
-/

namespace SensorBoard

/-! ## A sampler that goes on -/

/-- A feed, and the samples that it delivers before each of the reads to come. -/
structure Ongoing where
  feed : Feed
  coming : List (List Int16)

namespace Ongoing

/-- The feed at the next read, and what comes after that. -/
def pass (o : Ongoing) : Ongoing := ⟨o.feed.deliverAll (o.coming.headD []), o.coming.tail⟩

instance : Sampler Ongoing where
  written := .lift do
    let o ← get
    set { o with feed := o.feed.asked }
    return o.feed.count
  halt := return ()
  configure _ := modify fun o => { o with feed := o.feed.setUp }
  resume := return ()
  sampleAt i := do
    modify pass
    return (← get).feed.ring.read i

instance : Logger Ongoing where
  log _ := return ()

instance : CriticalSection Ongoing where
  enter := return ()
  leave := return ()

/-- The feed after a number of reads, and what comes after those. -/
def passes (o : Ongoing) (k : Nat) : Ongoing :=
  ⟨o.feed.deliverAll (o.coming.take k).flatten, o.coming.drop k⟩

theorem passes_succ (o : Ongoing) (k : Nat) : o.passes (k + 1) = o.pass.passes k := by
  obtain ⟨f, coming⟩ := o
  cases coming with
  | nil =>
    simp only [passes, pass, List.take_nil, List.drop_nil, List.headD_nil, List.tail_nil]
    rfl
  | cons ss coming =>
    have happend : f.deliverAll (ss ++ (coming.take k).flatten) =
        (f.deliverAll ss).deliverAll (coming.take k).flatten := List.foldl_append ..
    simp only [passes, pass, List.take_succ_cons, List.drop_succ_cons, List.flatten_cons, happend,
      List.headD_cons, List.tail_cons]

end Ongoing

/-! ## An acquisition depends on what it reads -/

namespace Pipeline

variable {σ α β : Type} [Sampler σ] [Logger σ] {p : Pipeline}

/-- Two outcomes are the same, apart from the worlds that they leave. -/
structure Alike (r r' : Except Fatal α × Held Pipeline (Observed σ)) : Prop where
  result : r.1 = r'.1
  own : r.2.own = r'.2.own
  messages : r.2.world.messages = r'.2.world.messages

omit [Sampler σ] [Logger σ] in
theorem Alike.follow {r r' : Except Fatal α × Held Pipeline (Observed σ)}
    {f : α → Act (Held Pipeline (Observed σ)) β} (h : Alike r r')
    (hf : ∀ a q (o o' : Observed σ), o.messages = o'.messages →
      Alike ((f a).runOn ⟨q, o⟩) ((f a).runOn ⟨q, o'⟩)) :
    Alike (Attempt.follow f r) (Attempt.follow f r') := by
  obtain ⟨a, q, o⟩ := r
  obtain ⟨a', q', o'⟩ := r'
  obtain ⟨rfl, rfl, hm⟩ := h
  cases a with
  | error e => exact ⟨rfl, rfl, hm⟩
  | ok a => exact hf a q o o' hm

/-- One read of a drain. -/
def readOne (n : UInt32) : Step σ Int16 := do
  let s ← Sampler.sampleAt (ringIndex n)
  log (drainMessage (n, s))
  return s

theorem runOn_readFrom_succ_of_one (n : UInt32) (k : Nat) (w : σ) :
    (readFrom n (k + 1)).runOn w =
      let r := (readOne n).runOn w
      let t := (readFrom (n + 1) k).runOn r.2
      (r.1 :: t.1, t.2) := rfl

theorem runOn_drain_succ (n : Nat) (p : Pipeline) (w : σ) :
    (drain (n + 1)).runOn (⟨p, w⟩ : Held Pipeline σ) =
      let r := (readOne p.consumed).runOn w
      if (p.channels.get (.ofSample p.cursor)).count.toNat < 64 then
        (drain n).runOn ⟨p.take r.1, r.2⟩
      else (.error .channelOverfull, ⟨p, r.2⟩) := by
  rw [drain, Attempt.runOn_bind, runOn_drainOne]
  by_cases hroom : (p.channels.get (.ofSample p.cursor)).count.toNat < 64
  · simp only [if_pos hroom]
    rfl
  · simp only [if_neg hroom]
    rfl

/-- Reading the same, a drain does the same. -/
theorem drain_alike {n : Nat} {o o' : Observed σ} (hm : o.messages = o'.messages)
    (hread : ((readFrom p.consumed n).runOn o).1 = ((readFrom p.consumed n).runOn o').1) :
    Alike ((drain n).runOn ⟨p, o⟩) ((drain n).runOn ⟨p, o'⟩) := by
  induction n generalizing p o o' with
  | zero => exact ⟨rfl, rfl, hm⟩
  | succ n ih =>
    rw [runOn_readFrom_succ_of_one, runOn_readFrom_succ_of_one] at hread
    obtain ⟨hs, hrest⟩ := List.cons.inj hread
    have hlogged : ((readOne p.consumed).runOn o).2.messages =
        ((readOne p.consumed).runOn o').2.messages := by
      show o.messages ++ [drainMessage (p.consumed, ((readOne p.consumed).runOn o).1)] = _
      rw [hs, hm]
      rfl
    rw [runOn_drain_succ, runOn_drain_succ]
    -- whether the window has room does not depend on the world
    by_cases hroom : (p.channels.get (.ofSample p.cursor)).count.toNat < 64
    · simp only [if_pos hroom, hs]
      exact ih hlogged hrest
    · simp only [if_neg hroom]
      exact ⟨rfl, rfl, hlogged⟩

omit [Sampler σ] [Logger σ] in
theorem runOn_publishAll_of_own (p : Pipeline) (w w' : σ) :
    publishAll.runOn (⟨p, w'⟩ : Held Pipeline σ) =
      ((publishAll.runOn (⟨p, w⟩ : Held Pipeline σ)).1,
        ⟨(publishAll.runOn (⟨p, w⟩ : Held Pipeline σ)).2.own, w'⟩) :=
  View.publishAll (π := fun _ : σ => w') ⟨p, w⟩

omit [Sampler σ] in
theorem finish_alike (fault : Option Fault) (p : Pipeline) {o o' : Observed σ}
    (hm : o.messages = o'.messages) :
    Alike ((finish fault).runOn ⟨p, o⟩) ((finish fault).runOn ⟨p, o'⟩) := by
  have hworld : (publishAll.runOn (⟨p, o⟩ : Held Pipeline (Observed σ))).2.world = o :=
    (onlyWindows_publishAll _).1
  rw [finish, Attempt.runOn_bind, Attempt.runOn_bind, runOn_publishAll_of_own p o o']
  refine Alike.follow ⟨rfl, rfl, ?_⟩ ?_
  · rw [hworld]
    exact hm
  · intro readings q o o' hm
    have hlogged : o.messages ++ [.averages readings] = o'.messages ++ [.averages readings] := by
      rw [hm]
    exact ⟨rfl, rfl, hlogged⟩

/-- Keeping a record does not change what is read. -/
theorem readFrom_observed (n : UInt32) (k : Nat) (o : Observed σ) :
    ((readFrom n k).runOn o).1 = ((readFrom n k).runOn o.world).1 := by
  induction k generalizing n o with
  | zero => rfl
  | succ k ih =>
    rw [runOn_readFrom_succ_of_one, runOn_readFrom_succ_of_one]
    exact congrArg (((readOne n).runOn o).1 :: ·) (ih (n + 1) ((readOne n).runOn o).2)

variable [CriticalSection σ]

omit [Logger σ] [CriticalSection σ] in
theorem written_observed {w w₁ : σ} {n : UInt32} (hw : Sampler.written.runOn w = (.ok n, w₁)) :
    Sampler.written.runOn ({ world := w } : Observed σ) =
      (.ok n, { world := w₁, calls := [.written (.ok n)] }) := by
  show (Observed.recording Call.written Sampler.written).runOn _ = _
  rw [Observed.runOn_recording]
  simp only [hw]
  rfl

/-- **Two worlds that give the same count, and in which the backlog reads the same, are the same to
an acquisition.** -/
theorem observe_alike {w w' w₁ w₁' : σ} {n : UInt32} (hw : Sampler.written.runOn w = (.ok n, w₁))
    (hw' : Sampler.written.runOn w' = (.ok n, w₁')) (hn : health (p.backlog n) = none)
    (hread : ((readFrom p.consumed (p.backlog n).toNat).runOn w₁).1 =
      ((readFrom p.consumed (p.backlog n).toNat).runOn w₁').1) :
    Alike (observe ⟨p, w⟩) (observe ⟨p, w'⟩) := by
  rw [observe, observe, runOn_acquire_answered (written_observed hw),
    runOn_acquire_answered (written_observed hw'), hn]
  refine Alike.follow (drain_alike rfl ?_) fun _ q o o' hm => finish_alike none q hm
  rw [readFrom_observed, readFrom_observed]
  exact hread

/-- From empty windows an acquisition drains just what it reads. -/
theorem drained_healthy {w w₁ : σ} {n : UInt32} (hp : p.Cleared)
    (hw : Sampler.written.runOn w = (.ok n, w₁)) (hn : health (p.backlog n) = none) :
    drained (⟨p, w⟩ : Held Pipeline σ) =
      (numbered p.consumed ((readFrom p.consumed (p.backlog n).toNat).runOn w₁).1).map
        fun x => (ringIndex x.1, .ofSample (ringIndex x.1), x.2) := by
  rw [drained, messages, observe, acquire_healthy hp (written_observed hw) hn]
  simp only [Observed.messages_log, (readFrom_record _ _ _).2, readFrom_observed,
    List.nil_append, List.filterMap_append, samples_drainMessage]
  exact List.append_nil _

omit [CriticalSection σ] in
theorem drain_ok {n : Nat} {w : σ} {h : Held Pipeline σ}
    (hd : (drain n).runOn (⟨p, w⟩ : Held Pipeline σ) = (.ok (), h)) :
    h = ⟨p.takeAll ((readFrom p.consumed n).runOn w).1, ((readFrom p.consumed n).runOn w).2⟩ := by
  induction n generalizing p w with
  | zero =>
    cases hd
    rfl
  | succ n ih =>
    rw [runOn_drain_succ] at hd
    by_cases hroom : (p.channels.get (.ofSample p.cursor)).count.toNat < 64
    · simp only [if_pos hroom] at hd
      exact ih hd
    · simp only [if_neg hroom] at hd
      cases hd

/-- An acquisition that returns without a fault has caught up with the count, and has done no more
to the world than read the backlog and log. -/
theorem acquire_returned {w w₁ : σ} {n : UInt32} (hw : Sampler.written.runOn w = (.ok n, w₁))
    (hn : health (p.backlog n) = none) {a : Acquisition}
    (ha : (acquire.runOn (⟨p, w⟩ : Held Pipeline σ)).1 = .ok a) :
    (acquire.runOn (⟨p, w⟩ : Held Pipeline σ)).2.own.consumed = n ∧
      (acquire.runOn (⟨p, w⟩ : Held Pipeline σ)).2.world =
        ((log (.averages a.readings)).runOn
          ((readFrom p.consumed (p.backlog n).toNat).runOn w₁).2).2 := by
  rw [runOn_acquire_answered hw, hn] at ha ⊢
  rcases hd : (drain (p.backlog n).toNat).runOn (⟨p, w₁⟩ : Held Pipeline σ) with ⟨_ | _, h⟩
  -- a window that is full, or an average out of range, and it would not have returned
  · simp only [hd, Attempt.follow_error] at ha
    cases ha
  have hh := drain_ok hd
  obtain ⟨-, -, hconsumed⟩ :=
    p.takeAll_fields ((readFrom p.consumed (p.backlog n).toNat).runOn w₁).1
  rw [length_readFrom, backlog_add] at hconsumed
  simp only [hd, Attempt.follow_ok, finish, Attempt.runOn_bind] at ha ⊢
  obtain ⟨hworld, hown⟩ := onlyWindows_publishAll h
  rcases hpub : publishAll.runOn h with ⟨_ | readings, h'⟩
  · simp only [hpub, Attempt.follow_error] at ha
    cases ha
  rw [hpub] at hworld hown
  simp only [hpub, Attempt.follow_ok] at ha ⊢
  cases ha
  refine ⟨?_, ?_⟩
  · show h'.own.consumed = n
    rw [hown, hh]
    exact hconsumed
  · show ((log (.averages readings)).runOn h'.world).2 = _
    rw [hworld, hh]

end Pipeline

/-! ## Reading in time -/

open Pipeline

/-- By every read of a backlog, no more has come than leaves the sample to be read in the ring. -/
def InTime (backlog : Nat) (coming : List (List Int16)) : Prop :=
  ∀ i < backlog, (coming.take (i + 1)).flatten.length ≤ 256 - backlog + i

/-- At most 32 samples in all are in time for every backlog that is drained. -/
theorem inTime_of_total {backlog : Nat} {coming : List (List Int16)} (hmax : backlog ≤ 224)
    (h : (coming.take backlog).flatten.length ≤ 32) : InTime backlog coming := by
  intro i hi
  have hsplit : coming.take backlog =
      coming.take (i + 1) ++ (coming.drop (i + 1)).take (backlog - (i + 1)) := by
    rw [← List.take_add]
    congr 1
    omega
  rw [hsplit, List.flatten_append, List.length_append] at h
  omega

namespace Ongoing

theorem runOn_readFrom (n : UInt32) (k : Nat) (o : Ongoing) :
    ((readFrom n k).runOn o).2 = o.passes k ∧
      ∀ i < k, ((readFrom n k).runOn o).1[i]? =
        some ((o.passes (i + 1)).feed.ring.read (ringIndex (n + i.toUInt32))) := by
  induction k generalizing n o with
  | zero => exact ⟨rfl, fun i hi => absurd hi (Nat.not_lt_zero i)⟩
  | succ k ih =>
    have hone : (readOne n).runOn o = (o.pass.feed.ring.read (ringIndex n), o.pass) := rfl
    obtain ⟨hworld, hread⟩ := ih (n + 1) o.pass
    rw [runOn_readFrom_succ_of_one, hone]
    refine ⟨hworld.trans (o.passes_succ k).symm, ?_⟩
    intro i hi
    cases i with
    | zero =>
      rw [List.getElem?_cons_zero, count_add_zero, passes_succ]
      rfl
    | succ i =>
      rw [List.getElem?_cons_succ, hread i (by omega), count_one_add, ← passes_succ]

/-- With the sampler at rest, a backlog is read as it is in the ring. -/
theorem readFrom_still (f : Feed) (n : UInt32) (k : Nat) :
    ((readFrom n k).runOn (⟨f, []⟩ : Ongoing)).1 =
      (List.range k).map fun i => f.ring.read (ringIndex (n + i.toUInt32)) := by
  refine List.ext_getElem? fun i => ?_
  rw [List.getElem?_map]
  by_cases hi : i < k
  · rw [(runOn_readFrom n k ⟨f, []⟩).2 i hi, List.getElem?_range hi]
    simp [passes, Feed.deliverAll]
  · rw [List.getElem?_eq_none (by rw [length_readFrom]; omega),
      List.getElem?_eq_none (by rw [List.length_range]; omega)]
    rfl

theorem ahead_readFrom {f : Feed} {n : UInt32} {k : Nat} (hcount : f.count = n + k.toUInt32) :
    f.Ahead n ((readFrom n k).runOn (⟨f, []⟩ : Ongoing)).1 where
  count := by rw [length_readFrom, hcount]
  read {i s} hi _ := by
    rw [readFrom_still, List.getElem?_map] at hi
    obtain ⟨j, hj, hs⟩ := Option.map_eq_some_iff.1 hi
    obtain ⟨hlt, hij⟩ := List.getElem?_eq_some_iff.1 hj
    rw [List.getElem_range] at hij
    rw [hij]
    exact hs

/-- **In time, a backlog is read as if the sampler were at rest.** -/
theorem readFrom_inTime {f : Feed} {n : UInt32} {k : Nat} (hcount : f.count = n + k.toUInt32)
    {coming : List (List Int16)} (h : InTime k coming) (hmax : k ≤ 256) :
    ((readFrom n k).runOn (⟨f, coming⟩ : Ongoing)).1 =
      ((readFrom n k).runOn (⟨f, []⟩ : Ongoing)).1 := by
  have hahead := ahead_readFrom hcount
  have hlen : ((readFrom n k).runOn (⟨f, []⟩ : Ongoing)).1.length = k := length_readFrom ..
  generalize ((readFrom n k).runOn (⟨f, []⟩ : Ongoing)).1 = ss at hahead hlen ⊢
  refine List.ext_getElem? fun i => ?_
  by_cases hi : i < k
  · have hcome := h i hi
    -- the sample is still among the last 256 of those that the feed is ahead by
    have hmem : (ss ++ (coming.take (i + 1)).flatten)[i]? = some ss[i] := by
      rw [List.getElem?_append_left (by omega), List.getElem?_eq_getElem]
    have hlater : (f.deliverAll (coming.take (i + 1)).flatten).ring.read
        (ringIndex (n + i.toUInt32)) = ss[i] :=
      (hahead.deliverAll _).read hmem (by rw [List.length_append]; omega)
    rw [(runOn_readFrom n k ⟨f, coming⟩).2 i hi, List.getElem?_eq_getElem (by omega)]
    exact congrArg some hlater
  · rw [List.getElem?_eq_none (by rw [length_readFrom]; omega), List.getElem?_eq_none (by omega)]

end Ongoing

/-! ## Acquisitions in time -/

namespace Pipeline

/-- A reader of a feed that goes on. -/
def facing (p : Pipeline) (f : Feed) (coming : List (List Int16)) : Held Pipeline Ongoing :=
  ⟨p, ⟨f, coming⟩⟩

/-- An acquisition is not disturbed by what comes while it drains its backlog. -/
structure Undisturbed (p : Pipeline) (f : Feed) (coming : List (List Int16)) : Prop where
  /-- It gives the readings that it would give with the sampler at rest. -/
  result : (acquire.runOn (p.facing f coming)).1 = (acquire.runOn (p.facing f [])).1
  /-- It leaves the reader as it would leave it then. -/
  own : (acquire.runOn (p.facing f coming)).2.own = (acquire.runOn (p.facing f [])).2.own
  /-- It drains the samples that it would drain then. -/
  drained : drained (p.facing f coming) = drained (p.facing f [])
  /-- From empty windows it returns, and without a fault. -/
  returns : p.Cleared → ∃ readings, (acquire.runOn (p.facing f coming)).1 = .ok ⟨readings, none⟩
  /-- From empty windows it drains the whole backlog, as it was in the ring when it was counted. -/
  whole : p.Cleared → Pipeline.drained (p.facing f coming) =
    (List.range (p.backlog f.count).toNat).map fun i =>
      let index := ringIndex (p.consumed + i.toUInt32)
      (index, Channel.ofSample index, f.ring.read index)
  /-- If it returns, the reader has caught up with the count that it saw, and the next backlog is
  what came meanwhile. -/
  caughtUp : ∀ a, (acquire.runOn (p.facing f coming)).1 = .ok a →
    (acquire.runOn (p.facing f coming)).2.own.consumed = f.count ∧
      ∃ u, (unread.runOn (acquire.runOn (p.facing f coming)).2).1 = .ok u ∧
        u.toNat = (coming.take (p.backlog f.count).toNat).flatten.length

variable {p : Pipeline} {f : Feed} {coming : List (List Int16)}

/-- What came during a drain, modulo `2 ^ 32`, is what the count has moved by. -/
theorem toNat_count_passes (k : Nat) :
    ((Ongoing.passes ⟨f, coming⟩ k).feed.count - f.count).toNat =
      (coming.take k).flatten.length % UInt32.size := by
  have hahead := (Feed.ahead_nil f).deliverAll (coming.take k).flatten
  exact Feed.toNat_count_sub hahead.count

/-- An acquisition that returns has caught up with the count that it saw, whatever came since. -/
theorem acquire_caughtUp (hn : health (p.backlog f.count) = none) {a : Acquisition}
    (ha : (acquire.runOn (p.facing f coming)).1 = .ok a) :
    (acquire.runOn (p.facing f coming)).2.own.consumed = f.count ∧
      ∃ u, (unread.runOn (acquire.runOn (p.facing f coming)).2).1 = .ok u ∧
        u.toNat = (coming.take (p.backlog f.count).toNat).flatten.length % UInt32.size := by
  have hwritten : Sampler.written.runOn (⟨f, coming⟩ : Ongoing) =
      (.ok f.count, ⟨f.asked, coming⟩) := rfl
  obtain ⟨hconsumed, hworld⟩ : (acquire.runOn (p.facing f coming)).2.own.consumed = f.count ∧
      (acquire.runOn (p.facing f coming)).2.world = _ := acquire_returned hwritten hn ha
  have hfeed : (acquire.runOn (p.facing f coming)).2.world.feed =
      (Ongoing.passes ⟨f.asked, coming⟩ (p.backlog f.count).toNat).feed := by
    rw [hworld]
    exact congrArg Ongoing.feed (Ongoing.runOn_readFrom ..).1
  refine ⟨hconsumed, _, by rw [runOn_unread]; rfl, ?_⟩
  show ((acquire.runOn (p.facing f coming)).2.world.feed.count -
    (acquire.runOn (p.facing f coming)).2.own.consumed).toNat = _
  rw [hfeed, hconsumed]
  exact toNat_count_passes (f := f.asked) _

theorem undisturbed_of_inTime (hmin : 1 ≤ (p.backlog f.count).toNat)
    (hmax : (p.backlog f.count).toNat ≤ 224) (h : InTime (p.backlog f.count).toNat coming) :
    Undisturbed p f coming := by
  have hhealth : health (p.backlog f.count) = none := health_eq_none_iff.2 ⟨hmin, hmax⟩
  have hwritten : ∀ coming, Sampler.written.runOn (⟨f, coming⟩ : Ongoing) =
      (.ok f.count, ⟨f.asked, coming⟩) := fun coming => rfl
  have hread := Ongoing.readFrom_inTime (f := f.asked) (p.backlog_add f.count).symm h (by omega)
  have halike : Alike (observe (p.facing f coming)) (observe (p.facing f [])) :=
    observe_alike (hwritten coming) (hwritten []) hhealth hread
  refine ⟨?_, ?_, ?_, ?_, ?_, ?_⟩
  · rw [runOn_acquire_eq_observe, runOn_acquire_eq_observe]
    exact halike.result
  · rw [runOn_acquire_eq_observe, runOn_acquire_eq_observe]
    exact halike.own
  · rw [drained, drained, messages, messages, halike.messages]
  · intro hp
    rw [facing, acquire_healthy hp (hwritten coming) hhealth]
    exact ⟨_, rfl⟩
  · intro hp
    rw [facing, drained_healthy hp (hwritten coming) hhealth, hread, Ongoing.readFrom_still,
      numbered_map_range, List.map_map]
    rfl
  · intro a ha
    obtain ⟨hconsumed, u, hu, hmeanwhile⟩ := acquire_caughtUp hhealth ha
    refine ⟨hconsumed, u, hu, hmeanwhile.trans (Nat.mod_eq_of_lt ?_)⟩
    -- the bound at the last read holds of all that came
    have hlast := h ((p.backlog f.count).toNat - 1) (by omega)
    rw [Nat.sub_add_cancel hmin] at hlast
    rw [show UInt32.size = 4294967296 from rfl]
    omega

/-- **A drain has room for a sampler that goes on.** Before the `i`th read of a backlog of `u`
samples `256 - u + i` more may have come, wherever they come and whatever the ring and the reader
hold; 32 in all are never too many. -/
theorem acquire_undisturbed (hmin : 1 ≤ (p.backlog f.count).toNat)
    (hmax : (p.backlog f.count).toNat ≤ 224) :
    (InTime (p.backlog f.count).toNat coming → Undisturbed p f coming) ∧
      ((coming.take (p.backlog f.count).toNat).flatten.length ≤ 32 → Undisturbed p f coming) :=
  ⟨undisturbed_of_inTime hmin hmax,
    fun h => undisturbed_of_inTime hmin hmax (inTime_of_total hmax h)⟩

/-- The largest backlog that is drained, over the wrap of the counts, with as many samples before
each read as there is room for. -/
theorem acquire_undisturbed_to_the_brim :
    Undisturbed { ring := 0, consumed := 0xFFFFFFF0 }
      { ring := SampleRing.zero.writeAll 0 (.replicate 256 7), count := 0xD0 }
      (.replicate 32 9 :: .replicate 223 [9]) := by
  have hin : InTime 224 (.replicate 32 9 :: .replicate 223 [9]) := by
    intro i hi
    rw [List.take_succ_cons, List.take_replicate, List.flatten_cons, List.length_append,
      List.length_replicate, List.length_flatten, List.map_replicate, List.sum_replicate_nat,
      List.length_singleton]
    omega
  exact (acquire_undisturbed (by decide) (by decide)).1 hin

end Pipeline

end SensorBoard
