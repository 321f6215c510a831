import SensorBoard.Proofs.Delivery

/-!
# No sample twice, and what it takes

The reader's cursor is meant to be the number of samples drained since the sampler was set up. A
recovery resets the cursor first, and only then halts the sampler and sets it up; when one of these
two calls fails, the cursor is at the start while the sampler counts on, and the next acquisition
may drain samples that were drained before.

* `origin`: which of all the samples delivered a slot of the ring has.
* `Watched`: a reader and its world with what has been drained since the sampler was set up, and
  which samples were accumulated, over a whole run.
* `Faithful`: the cursor is what it is meant to be, and no sample was accumulated twice.
* `run_faithful_iff`: **a run is faithful throughout just if every recovery that fails before the
  sampler is set up finds the cursor at the start.** The sampler may conform in any way, and every
  call may fail.
-/

namespace SensorBoard

variable {n m : Nat} {i j : UInt64} {xs ys : List (UInt32 × Int16)} {ss : List Int16}

/-- The number of the sample that was the last to go to a slot, of samples with the newest first. -/
def lastTo (i : UInt64) : List (UInt32 × Int16) → Option Nat
  | [] => none
  | x :: xs => if SampleRing.slot (ringIndex x.1) = SampleRing.slot i then some xs.length
    else lastTo i xs

/-- The number, among all samples delivered, of the one in the slot of an index. -/
def origin (log : List (UInt32 × Int16)) (i : UInt64) : Option Nat := lastTo i log.reverse

theorem lastTo_lt (h : lastTo i xs = some n) : n < xs.length := by
  induction xs with
  | nil => cases h
  | cons x xs ih =>
    rw [lastTo] at h
    split at h
    · cases h; exact Nat.lt_succ_self _
    · exact Nat.lt_succ_of_lt (ih h)

/-- A sample is in one slot only. -/
theorem slot_eq_of_lastTo (h : lastTo i xs = some n) (h' : lastTo j xs = some n) :
    SampleRing.slot i = SampleRing.slot j := by
  induction xs with
  | nil => cases h
  | cons x xs ih =>
    rw [lastTo] at h h'
    split at h <;> split at h'
    · rename_i hi hj; exact hi.symm.trans hj
    · cases h; exact absurd (lastTo_lt h') (Nat.lt_irrefl _)
    · cases h'; exact absurd (lastTo_lt h) (Nat.lt_irrefl _)
    · exact ih h h'

/-- What has been written since is newer. -/
theorem le_of_lastTo (h : lastTo i (xs ++ ys) = some n)
    (hx : ∃ x ∈ xs, SampleRing.slot (ringIndex x.1) = SampleRing.slot i) : ys.length ≤ n := by
  induction xs with
  | nil => obtain ⟨x, hx, -⟩ := hx; cases hx
  | cons x xs ih =>
    rw [List.cons_append, lastTo] at h
    split at h
    · cases h; rw [List.length_append]; omega
    · rename_i hne
      obtain ⟨y, hy, hs⟩ := hx
      rcases List.mem_cons.1 hy with rfl | hy
      · exact absurd hs hne
      · exact ih h ⟨y, hy, hs⟩

theorem origin_lt (h : origin xs i = some n) : n < xs.length := by
  have := lastTo_lt h
  rwa [List.length_reverse] at this

theorem le_origin (h : origin (ys ++ xs) i = some n)
    (hx : ∃ x ∈ xs, SampleRing.slot (ringIndex x.1) = SampleRing.slot i) : ys.length ≤ n := by
  rw [origin, List.reverse_append] at h
  obtain ⟨x, hx, hs⟩ := hx
  have := le_of_lastTo h ⟨x, List.mem_reverse.2 hx, hs⟩
  rwa [List.length_reverse] at this

/-- The counts of a numbered stream. -/
theorem exists_of_mem_numbered {x : UInt32 × Int16} {c : UInt32} (h : x ∈ numbered c ss) :
    ∃ k < ss.length, x.1 = c + k.toUInt32 := by
  induction ss generalizing c with
  | nil => cases h
  | cons s ss ih =>
    rcases List.mem_cons.1 h with rfl | h
    · exact ⟨0, Nat.succ_pos _, (count_add_zero c).symm⟩
    · obtain ⟨k, hk, hx⟩ := ih h
      exact ⟨k + 1, Nat.succ_lt_succ hk, hx.trans (count_one_add ..)⟩

theorem mem_numbered {c : UInt32} {k : Nat} (hk : k < ss.length) :
    (c + k.toUInt32, ss[k]) ∈ numbered c ss := by
  induction ss generalizing c k with
  | nil => cases hk
  | cons s ss ih =>
    cases k with
    | zero => rw [count_add_zero]; exact List.mem_cons_self
    | succ k =>
      have := ih (c := c + 1) (Nat.lt_of_succ_lt_succ hk)
      rw [count_one_add] at this
      exact List.mem_cons_of_mem _ this

/-- No more samples in a row than the ring is long have slots of their own. -/
theorem pairwise_slot_numbered (c : UInt32) (h : ss.length ≤ 256) :
    (numbered c ss).Pairwise fun x y =>
      SampleRing.slot (ringIndex x.1) ≠ SampleRing.slot (ringIndex y.1) := by
  induction ss generalizing c with
  | nil => exact .nil
  | cons s ss ih =>
    rw [List.length_cons] at h
    -- a sample further on would have to be a whole ring ahead
    refine .cons (fun y hy heq => ?_) (ih (c + 1) (by omega))
    obtain ⟨k, hk, hy⟩ := exists_of_mem_numbered hy
    rw [hy, count_one_add] at heq
    have hslot : (SampleRing.slot (ringIndex c)).val = _ := Fin.ext_iff.1 heq
    rw [Feed.slot_ringIndex, Feed.slot_ringIndex_add] at hslot
    omega

/-! ## What is behind the cursor -/

/-- The samples from the cursor on came after all that were accumulated; or else the cursor is at
the start and none was accumulated yet. -/
def Behind (f : Feed) (c : UInt32) (acc : List Nat) : Prop :=
  (c = 0 ∧ acc = []) ∨ ∃ ys ss, f.all = ys ++ numbered c ss ∧ f.count = c + ss.length.toUInt32 ∧
    ∀ n ∈ acc, n < ys.length

section

variable {f : Feed} {c : UInt32} {acc : List Nat}

theorem behind_all (h : ∀ n ∈ acc, n < f.all.length) : Behind f f.count acc :=
  .inr ⟨f.all, [], (List.append_nil _).symm, (count_add_zero _).symm, h⟩

theorem Behind.lt (h : Behind f c acc) (hn : n ∈ acc) : n < f.all.length := by
  rcases h with ⟨-, rfl⟩ | ⟨ys, ss, hall, -, hacc⟩
  · cases hn
  · have := hacc n hn
    rw [hall, List.length_append]
    omega

theorem Behind.asked (h : Behind f c acc) : Behind f.asked c acc := by
  rcases h with h | ⟨ys, ss, hall, hc, hacc⟩
  · exact .inl h
  · exact .inr ⟨ys, ss, f.all_asked.trans hall, hc, hacc⟩

theorem Behind.deliverAll (h : Behind f c acc) (ts : List Int16) :
    Behind (f.deliverAll ts) c acc := by
  rcases h with h | ⟨ys, ss, hall, hc, hacc⟩
  · exact .inl h
  · refine .inr ⟨ys, ss ++ ts, ?_, ?_, hacc⟩
    · rw [f.all_deliverAll, hall, hc, numbered_append, List.append_assoc]
    · rw [((Feed.ahead_nil f).deliverAll ts).count, hc, ← UInt32.toNat_inj]
      simp only [UInt32.toNat_add, Nat.toUInt32_eq, UInt32.toNat_ofNat', List.length_append,
        List.nil_append]
      omega

theorem behind_setUp (h : ∀ n ∈ acc, n < f.all.length) (rs : List Int16) :
    Behind (f.setUp.deliverAll rs) 0 acc :=
  Behind.deliverAll (behind_all (f := f.setUp) fun n hn => f.all_setUp ▸ h n hn) rs

/-- **What a drain takes is new, and each of it is taken once.** -/
theorem nodup_drained (hb : Behind f c acc) (hn : acc.Nodup)
    (hlen : ss.length = (f.count - c).toNat) (hle : ss.length ≤ 224) :
    (acc ++ (numbered c ss).filterMap fun x => origin f.all (ringIndex x.1)).Nodup := by
  refine List.nodup_append.2 ⟨hn, ?_, ?_⟩
  · refine (pairwise_slot_numbered c (by omega)).filterMap _ fun x y hne n hx m hy heq => ?_
    exact hne (slot_eq_of_lastTo hx (heq ▸ hy))
  intro a ha b hbm heq
  rcases hb with ⟨-, rfl⟩ | ⟨ys, ts, hall, hc, hacc⟩
  · cases ha
  obtain ⟨x, hx, ho⟩ := List.mem_filterMap.1 hbm
  obtain ⟨k, hk, hxk⟩ := exists_of_mem_numbered hx
  -- the drain stops short of what has come since, so its slots have been written since
  have hkt : k < ts.length := by
    have hmod := Feed.toNat_count_sub hc
    have hle := Nat.mod_le ts.length UInt32.size
    omega
  have := le_origin (hall ▸ ho) ⟨_, mem_numbered hkt, by rw [hxk]⟩
  have := hacc a ha
  omega

end

/-! ## Whole runs -/

variable {σ : Type} [Sampler σ] [Logger σ] [CriticalSection σ] [Conforming σ]

/-- A reader and its world, with what has been drained over a run. -/
structure Watched (σ : Type) where
  held : Held Pipeline σ
  /-- How many samples were drained since the sampler was last set up, or since the start. -/
  drained : Nat := 0
  /-- Which of all samples delivered were accumulated, in order. -/
  accumulated : List Nat := []

namespace Watched

open Pipeline

/-- The world changes. -/
def moved (v : Watched σ) (f : σ → σ) : Watched σ :=
  { v with held := ⟨v.held.own, f v.held.world⟩ }

/-- The reader makes an acquisition. -/
def acquired (v : Watched σ) : Watched σ where
  held := (acquire.runOn v.held).2
  drained := (if SetUp (calls v.held) then 0 else v.drained) + (Pipeline.drained v.held).length
  accumulated := v.accumulated ++
    (Pipeline.drained v.held).filterMap fun d => origin (feed v.held.world).all d.1

/-- A run: a change of the world and an acquisition, again and again. -/
def run (v : Watched σ) (fs : List (σ → σ)) : Watched σ :=
  fs.foldl (fun v f => (v.moved f).acquired) v

/-- The cursor is the number of samples drained since the sampler was set up, modulo `2 ^ 32`, and
no sample was accumulated twice. -/
structure Faithful (v : Watched σ) : Prop where
  consumed : v.held.own.consumed = v.drained.toUInt32
  once : v.accumulated.Nodup

/-- What keeps a run faithful. -/
structure Sound (v : Watched σ) : Prop extends Faithful v where
  cleared : v.held.own.Cleared
  behind : Behind (feed v.held.world) v.held.own.consumed v.accumulated

theorem Sound.new (ring : UInt32) (w : σ) : Sound ({ held := ⟨{ ring }, w⟩ } : Watched σ) where
  consumed := rfl
  once := .nil
  cleared := (ready_new ring).cleared
  behind := .inl ⟨rfl, rfl⟩

/-- A recovery that fails before the sampler is set up finds the cursor at the start. -/
def Spared (h : Held Pipeline σ) : Prop := SetUpFailed (calls h) → h.own.consumed = 0

theorem Sound.moved {v : Watched σ} (hv : Sound v) (t : Turn σ) : Sound (v.moved t.move) := by
  obtain ⟨ts, ht⟩ := t.delivers v.held.world
  exact ⟨⟨hv.consumed, hv.once⟩, hv.cleared, ht ▸ hv.behind.deliverAll ts⟩

/-- **An acquisition keeps a run sound just if it is spared.** -/
theorem Sound.acquired {v : Watched σ} (hv : Sound v) :
    (Faithful v.acquired → Spared v.held) ∧ (Spared v.held → Sound v.acquired) := by
  obtain ⟨⟨p, w⟩, d, acc⟩ := v
  obtain ⟨⟨hc, hn⟩, hp, hb⟩ := hv
  have hx := passage_observe hp w
  rw [Watched.acquired, Spared, runOn_acquire_eq_observe, Pipeline.calls]
  dsimp only at hc hn hp hb hx ⊢
  generalize observe (⟨p, w⟩ : Held Pipeline σ) = r at hx ⊢
  generalize Pipeline.drained (⟨p, w⟩ : Held Pipeline σ) = ds at hx ⊢
  obtain ⟨a, q, o⟩ := r
  cases hx with
  | unanswered e failed own feed_eq calls =>
    dsimp only [Held.view, List.filterMap_nil, List.length_nil] at own feed_eq calls ⊢
    rw [own, if_neg calls.1, List.append_nil]
    exact ⟨fun _ h => absurd h calls.2, fun _ => ⟨⟨hc, hn⟩, hp, feed_eq ▸ hb⟩⟩
  -- all that has come is accumulated now or never, and what comes next is newer
  | healthy ss length drainable read returned own feed_eq calls =>
    dsimp only [Held.view] at own feed_eq calls ⊢
    rw [own, if_neg calls.1, List.length_map, length_numbered, List.filterMap_map]
    refine ⟨fun _ h => absurd h calls.2, fun _ => ⟨⟨?_, ?_⟩, cleared_closed _ _, ?_⟩⟩
    · change (feed w).count = (d + ss.length).toUInt32
      rw [← backlog_add p (feed w).count, hc, backlog, ← length]
      exact (UInt32.ofNat_add ..).symm
    · exact nodup_drained hb hn length drainable.2
    · refine feed_eq ▸ behind_all (f := (feed w).asked) fun n hn => ?_
      rw [Feed.all_asked]
      rcases List.mem_append.1 hn with hn | hn
      · exact hb.lt hn
      · obtain ⟨x, -, hx⟩ := List.mem_filterMap.1 hn
        exact origin_lt hx
  | notSetUp f fault e failed own ss feed_eq calls =>
    dsimp only [Held.view, List.filterMap_nil, List.length_nil] at own feed_eq calls ⊢
    rw [own, if_neg calls.1, List.append_nil]
    -- the cursor is reset, and is what it is meant to be only if it was there already
    refine ⟨fun hf _ => hc.trans hf.consumed.symm, fun hs => ?_⟩
    have h₀ := hs calls.2
    rw [h₀] at hb hc
    exact ⟨⟨hc, hn⟩, hp, feed_eq ▸ hb.asked.deliverAll ss⟩
  -- cursor and count both start again, whether or not the sampler is resumed
  | notResumed f fault e failed own ss rs feed_eq calls =>
    dsimp only [Held.view, List.filterMap_nil, List.length_nil] at own feed_eq calls ⊢
    rw [own, if_pos calls.1, List.append_nil]
    refine ⟨fun _ h => absurd h calls.2, fun _ => ⟨⟨rfl, hn⟩, hp, ?_⟩⟩
    exact feed_eq ▸ behind_setUp (fun n hn => (hb.asked.deliverAll ss).lt hn) rs
  | restarted f fault returned own ss rs feed_eq calls =>
    dsimp only [Held.view, List.filterMap_nil, List.length_nil] at own feed_eq calls ⊢
    rw [own, if_pos calls.1, List.append_nil]
    refine ⟨fun _ h => absurd h calls.2, fun _ => ⟨⟨rfl, hn⟩, cleared_closed _ _, ?_⟩⟩
    exact feed_eq ▸ behind_setUp (fun n hn => (hb.asked.deliverAll ss).lt hn) rs

theorem Sound.run_iff {v : Watched σ} (hv : Sound v) (ts : List (Turn σ)) :
    (∀ k ≤ ts.length, Faithful (v.run ((ts.map Turn.move).take k))) ↔
      Along Spared v.held (ts.map Turn.move) := by
  induction ts generalizing v with
  | nil => exact ⟨fun _ => trivial, fun _ k _ => by rw [List.map_nil, List.take_nil]; exact hv.1⟩
  | cons t ts ih =>
    -- the first acquisition, and then the rest of the run from the state that it leaves
    obtain ⟨hspared, hsound⟩ := (hv.moved t).acquired
    constructor
    · intro h
      have hs : Spared (v.moved t.move).held := hspared (h 1 (Nat.le_add_left ..))
      exact ⟨hs, (ih (hsound hs)).1 fun k hk => h (k + 1) (Nat.succ_le_succ hk)⟩
    · rintro ⟨hs, hrest⟩ k hk
      cases k with
      | zero => exact hv.1
      | succ k => exact (ih (hsound hs)).2 hrest k (Nat.le_of_succ_le_succ hk)

/-- **No sample twice, and what it takes.** Along any run of a new reader over a sampler that
conforms, with every call free to fail, the cursor always is what it is meant to be and no sample
is accumulated twice, just if every recovery that fails before the sampler is set up finds the
cursor at the start. -/
theorem run_faithful_iff (ring : UInt32) (w : σ) (ts : List (Turn σ)) :
    (∀ k ≤ ts.length, Faithful
      (({ held := ⟨{ ring }, w⟩ } : Watched σ).run ((ts.map Turn.move).take k))) ↔
      Along Spared ⟨{ ring }, w⟩ (ts.map Turn.move) :=
  (Sound.new ring w).run_iff ts

/-- A sampler that fails to halt while it stalls has its samples drained twice. -/
theorem drained_twice :
    let run (ts : List (Turn Supply)) : Watched Supply :=
      ({ held := ⟨{ ring := 0 }, {}⟩ } : Watched Supply).run (ts.map Turn.move)
    let drain := Supply.turn [100, 200, 300, 400] none
    let stall := Supply.turn [] (some .halt)
    let again := Supply.turn [] none
    ¬Faithful (run [drain, stall]) ∧ ¬Faithful (run [drain, stall, again]) ∧
      (run [drain, stall, again]).accumulated = [0, 1, 2, 3, 0, 1, 2, 3] := by
  refine ⟨fun h => absurd h.consumed ?_, fun h => absurd h.once ?_, ?_⟩ <;> decide +kernel

end Watched

end SensorBoard
