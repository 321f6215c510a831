import SensorBoard.Proofs.Feed

/-!
# What is read back

A ring has 256 slots and indexes count on, so samples that are stored one after the other come round
to slots that were taken before, as many times as there are samples for. A read is told an index and
no turn: it gives whatever came to the slot last. Indexes have 64 bits and counts have 32, and both
wrap. No wrap shifts a sample into another slot or a slot to another channel, but only because 256
divides them both, and four divides 256.

* `SampleRing.Last`: which of the samples stored from an index on is the last in the slot of an
  index. There is one unless none came to that slot (`exists_last`).
* `SampleRing.read_of_last`, `SampleRing.read_of_untouched`: what a read gives in the two cases.
* `SampleRing.Leaves`: what stored samples leave in a ring, slot by slot.
* `SampleRing.InTurn`: how the channels share out the slots, by indexes and by counts.
* `Feed.ring_deliverAll`: samples stored by their counts lie as if stored by their indexes.
* `SampleRing.reads_last`: **a read gives the last sample of its slot, and a slot keeps its channel
  over every wrap.**
-/

namespace SensorBoard

namespace SampleRing

variable {i j : UInt64} {k : Nat} {s t : Int16} {ss : List Int16}

/-! ## Indexes -/

/-- Indexes that are equal modulo the ring's length. -/
def Congruent (i j : UInt64) : Prop := i.toNat % 256 = j.toNat % 256

instance : Decidable (Congruent i j) := inferInstanceAs (Decidable (_ = _))

theorem slot_eq_iff : slot i = slot j ↔ Congruent i j := Fin.ext_iff

theorem index_add_zero (i : UInt64) : i + Nat.toUInt64 0 = i := UInt64.add_zero i

theorem index_one_add (i : UInt64) (k : Nat) : i + 1 + k.toUInt64 = i + (k + 1).toUInt64 := by
  rw [← UInt64.toNat_inj]
  simp only [UInt64.toNat_add, Nat.toUInt64_eq, UInt64.toNat_ofNat', UInt64.toNat_one]
  omega

/-- The indexes wrap at a multiple of the ring's length. -/
theorem toNat_index_mod (i : UInt64) (k : Nat) :
    (i + k.toUInt64).toNat % 256 = (i.toNat + k) % 256 := by
  rw [UInt64.toNat_add, Nat.toUInt64_eq, UInt64.toNat_ofNat']
  omega

theorem congruent_add_iff :
    Congruent (i + k.toUInt64) j ↔ (i.toNat + k) % 256 = j.toNat % 256 := by
  rw [Congruent, toNat_index_mod]

theorem Congruent.add_one (h : Congruent i j) : Congruent (i + 1) (j + 1) := by
  have hij : i.toNat % 256 = j.toNat % 256 := h
  show Congruent (i + Nat.toUInt64 1) (j + Nat.toUInt64 1)
  rw [congruent_add_iff, toNat_index_mod]
  omega

theorem slot_toUInt64 (q : Fin ringCapacity) : slot q.val.toUInt64 = q := by
  have hlt : q.val < 256 := q.isLt
  refine Fin.ext ?_
  show q.val.toUInt64.toNat % 256 = q.val
  rw [Nat.toUInt64_eq, UInt64.toNat_ofNat']
  omega

/-- Every slot is that of an index. -/
theorem getElem_slots (r : SampleRing) (q : Fin ringCapacity) :
    r.slots[q] = r.read q.val.toUInt64 :=
  congrArg r.slots.get (slot_toUInt64 q).symm

theorem ext_read {r r' : SampleRing} (h : ∀ j, r.read j = r'.read j) : r = r' := by
  have hslots : r.slots = r'.slots := Vector.ext fun k hk => by
    have hq := h k.toUInt64
    rwa [← getElem_slots r ⟨k, hk⟩, ← getElem_slots r' ⟨k, hk⟩] at hq
  rcases r with ⟨slots⟩
  rcases r' with ⟨slots'⟩
  exact congrArg SampleRing.mk hslots

/-! ## The last sample of a slot -/

/-- Of samples stored from an index on, `s` with the number `k` is the last that has an index
congruent to `j`. -/
structure Last (i : UInt64) (ss : List Int16) (j : UInt64) (k : Nat) (s : Int16) : Prop where
  sample : ss[k]? = some s
  here : Congruent (i + k.toUInt64) j
  later : ∀ m, k < m → m < ss.length → ¬Congruent (i + m.toUInt64) j

/-- None of the samples stored from an index on has an index congruent to `j`. -/
def Untouched (i : UInt64) (ss : List Int16) (j : UInt64) : Prop :=
  ∀ k < ss.length, ¬Congruent (i + k.toUInt64) j

theorem untouched_cons_iff :
    Untouched i (s :: ss) j ↔ ¬Congruent i j ∧ Untouched (i + 1) ss j := by
  constructor
  · intro h
    have hhead := h 0 (Nat.succ_pos _)
    rw [index_add_zero] at hhead
    refine ⟨hhead, fun k hk => ?_⟩
    rw [index_one_add]
    exact h (k + 1) (Nat.succ_lt_succ hk)
  · rintro ⟨hhead, htail⟩ k hk
    cases k with
    | zero => rwa [index_add_zero]
    | succ k =>
      rw [← index_one_add]
      exact htail k (Nat.lt_of_succ_lt_succ hk)

/-- The first sample is the last in its slot if no other one comes to it. -/
theorem last_zero_iff :
    Last i (t :: ss) j 0 s ↔ t = s ∧ Congruent i j ∧ Untouched (i + 1) ss j := by
  constructor
  · rintro ⟨hsample, hhere, hlater⟩
    rw [index_add_zero] at hhere
    refine ⟨Option.some.inj hsample, hhere, fun m hm => ?_⟩
    rw [index_one_add]
    exact hlater (m + 1) (Nat.succ_pos m) (Nat.succ_lt_succ hm)
  · rintro ⟨rfl, hhere, htail⟩
    refine ⟨rfl, by rwa [index_add_zero], fun m hm hlt => ?_⟩
    cases m with
    | zero => exact absurd hm (Nat.lt_irrefl 0)
    | succ m =>
      rw [← index_one_add]
      exact htail m (Nat.lt_of_succ_lt_succ hlt)

theorem last_succ_iff : Last i (t :: ss) j (k + 1) s ↔ Last (i + 1) ss j k s := by
  constructor
  · rintro ⟨hsample, hhere, hlater⟩
    rw [← index_one_add] at hhere
    refine ⟨hsample, hhere, fun m hm hlt => ?_⟩
    rw [index_one_add]
    exact hlater (m + 1) (Nat.succ_lt_succ hm) (Nat.succ_lt_succ hlt)
  · rintro ⟨hsample, hhere, hlater⟩
    rw [index_one_add] at hhere
    refine ⟨hsample, hhere, fun m hm hlt => ?_⟩
    cases m with
    | zero => exact absurd hm (Nat.not_lt_zero _)
    | succ m =>
      rw [← index_one_add]
      exact hlater m (Nat.lt_of_succ_lt_succ hm) (Nat.lt_of_succ_lt_succ hlt)

/-- A slot has a last sample unless none came to it. -/
theorem exists_last (i : UInt64) (ss : List Int16) (j : UInt64) :
    (∃ k s, Last i ss j k s) ∨ Untouched i ss j := by
  induction ss generalizing i with
  | nil => exact .inr fun k hk => absurd hk (Nat.not_lt_zero k)
  | cons s ss ih =>
    rcases ih (i + 1) with ⟨k, s', h⟩ | h
    · exact .inl ⟨k + 1, s', last_succ_iff.2 h⟩
    · by_cases hi : Congruent i j
      · exact .inl ⟨0, s, last_zero_iff.2 ⟨rfl, hi, h⟩⟩
      · exact .inr (untouched_cons_iff.2 ⟨hi, h⟩)

/-! ## Reading -/

/-- **A slot that no sample came to reads as before.** -/
theorem read_of_untouched (r : SampleRing) (h : Untouched i ss j) :
    (r.writeAll i ss).read j = r.read j := by
  induction ss generalizing r i with
  | nil => rfl
  | cons s ss ih =>
    obtain ⟨hhead, htail⟩ := untouched_cons_iff.1 h
    rw [writeAll, ih (r.write i s) htail, read_write, if_neg fun hs => hhead (slot_eq_iff.1 hs)]

/-- **A slot reads as the last sample that came to it.** -/
theorem read_of_last (r : SampleRing) (h : Last i ss j k s) : (r.writeAll i ss).read j = s := by
  induction ss generalizing r i k with
  | nil => cases h.sample
  | cons t ss ih =>
    rw [writeAll]
    cases k with
    | zero =>
      obtain ⟨rfl, hhere, htail⟩ := last_zero_iff.1 h
      rw [read_of_untouched _ htail, read_write, if_pos (slot_eq_iff.2 hhere)]
    | succ k => exact ih (r.write i t) (last_succ_iff.1 h)

/-- The next 255 samples go to other slots. -/
theorem last_of_recent (i : UInt64) (h : ss[k]? = some s) (hk : ss.length ≤ k + 256) :
    Last i ss (i + k.toUInt64) k s where
  sample := h
  here := rfl
  later := by
    intro m hm hlt hc
    rw [congruent_add_iff, toNat_index_mod] at hc
    omega

/-- A round of samples comes to every slot. -/
theorem exists_last_of_round (i : UInt64) (h : 256 ≤ ss.length) (j : UInt64) :
    ∃ k s, Last i ss j k s := by
  rcases exists_last i ss j with hlast | hnone
  · exact hlast
  · -- the number of steps from the one slot to the other
    have hstep : Congruent (i + ((j.toNat + 256 - i.toNat % 256) % 256).toUInt64) j := by
      rw [congruent_add_iff]
      omega
    exact absurd hstep (hnone _ (by omega))

/-- What samples stored from an index on leave in a ring. -/
structure Leaves (r : SampleRing) (i : UInt64) (ss : List Int16) : Prop where
  /-- A read gives the last sample that has a congruent index, or what was there before if there is
  none. -/
  read_iff (j : UInt64) (s : Int16) :
    (r.writeAll i ss).read j = s ↔ (∃ k, Last i ss j k s) ∨ Untouched i ss j ∧ r.read j = s
  /-- A slot that none of the indexes falls on does not change. -/
  kept (q : Fin ringCapacity) (h : ∀ k < ss.length, slot (i + k.toUInt64) ≠ q) :
    (r.writeAll i ss).slots[q] = r.slots[q]
  /-- The last 256 samples are all read back at their indexes. -/
  recent (k : Nat) (s : Int16) (h : ss[k]? = some s) (hk : ss.length ≤ k + 256) :
    (r.writeAll i ss).read (i + k.toUInt64) = s
  /-- After a round nothing is left of what was there before. -/
  renewed (h : 256 ≤ ss.length) (r' : SampleRing) : r'.writeAll i ss = r.writeAll i ss

theorem leaves (r : SampleRing) (i : UInt64) (ss : List Int16) : Leaves r i ss := by
  constructor
  case read_iff =>
    intro j s
    constructor
    · intro hread
      rcases exists_last i ss j with ⟨k, s', h⟩ | h
      · rw [read_of_last r h] at hread
        exact .inl ⟨k, hread ▸ h⟩
      · rw [read_of_untouched r h] at hread
        exact .inr ⟨h, hread⟩
    · rintro (⟨k, h⟩ | ⟨h, hread⟩)
      · exact read_of_last r h
      · rw [read_of_untouched r h, hread]
  case kept =>
    intro q h
    have huntouched : Untouched i ss q.val.toUInt64 := by
      intro k hk hc
      refine h k hk ?_
      rw [slot_eq_iff.2 hc, slot_toUInt64]
    rw [getElem_slots, getElem_slots, read_of_untouched r huntouched]
  case recent => exact fun k s h hk => read_of_last r (last_of_recent i h hk)
  case renewed =>
    intro h r'
    refine ext_read fun j => ?_
    obtain ⟨k, s, hlast⟩ := exists_last_of_round i h j
    rw [read_of_last r' hlast, read_of_last r hlast]

/-! ## Counts and channels -/

theorem write_congr (r : SampleRing) (h : Congruent i j) (s : Int16) :
    r.write i s = r.write j s :=
  ext_read fun l => by rw [read_write, read_write, slot_eq_iff.2 h]

/-- Congruent starts make no difference. -/
theorem writeAll_congr (r : SampleRing) (h : Congruent i j) (ss : List Int16) :
    r.writeAll i ss = r.writeAll j ss := by
  induction ss generalizing r i j with
  | nil => rfl
  | cons s ss ih => rw [writeAll, writeAll, write_congr r h, ih _ h.add_one]

/-- The channel of an index is that of its slot. -/
theorem index_ofSample (j : UInt64) : (Channel.ofSample j).index = (slot j).val % 4 := by
  rw [Channel.ofSample, Channel.index_ofIndex]
  show j.toNat % 4 = j.toNat % 256 % 4
  omega

theorem ofSample_congr (h : Congruent i j) : Channel.ofSample i = Channel.ofSample j := by
  rw [← Channel.index_inj, index_ofSample, index_ofSample, slot_eq_iff.2 h]

theorem congruent_mod (j : UInt64) : Congruent (j % 256) j := by
  have hlength : (256 : UInt64).toNat = 256 := rfl
  show (j % 256).toNat % 256 = j.toNat % 256
  rw [UInt64.toNat_mod, hlength, Nat.mod_mod]

theorem congruent_ringIndex (p : UInt32) : Congruent (ringIndex p) p.toUInt64 := by
  show (ringIndex p).toNat % 256 = p.toUInt64.toNat % 256
  rw [toNat_ringIndex, UInt32.toNat_toUInt64, Nat.mod_mod]

/-- The counts wrap at a multiple of the ring's length. -/
theorem congruent_count_add_one (p : UInt32) :
    Congruent (p + 1).toUInt64 (p.toUInt64 + 1) := by
  show (p + 1).toUInt64.toNat % 256 = (p.toUInt64 + 1).toNat % 256
  rw [UInt32.toNat_toUInt64, UInt32.toNat_add, UInt64.toNat_add, UInt32.toNat_toUInt64,
    UInt32.toNat_one, UInt64.toNat_one]
  omega

theorem slot_count (p : UInt32) : (slot p.toUInt64).val = p.toNat % 256 := by
  show p.toUInt64.toNat % 256 = p.toNat % 256
  rw [UInt32.toNat_toUInt64]

theorem index_ofSample_count (p : UInt32) :
    (Channel.ofSample p.toUInt64).index = p.toNat % 4 := by
  rw [index_ofSample, slot_count]
  omega

/-- How the channels share out the slots. -/
structure InTurn : Prop where
  /-- The channel of an index is that of its slot. -/
  index (j : UInt64) : (Channel.ofSample j).index = (slot j).val % 4
  /-- A wrap at the end of the ring makes no difference to it. -/
  wrapped (j : UInt64) : Channel.ofSample j = Channel.ofSample (j % 256)
  /-- The slot of a count, and the channel of this slot. -/
  count (p : UInt32) :
    (slot p.toUInt64).val = p.toNat % 256 ∧
    (Channel.ofSample (p.toUInt64 % 256)).index = p.toNat % 4
  /-- The next count has the next slot and the next channel, also when the counts start again. -/
  next (p : UInt32) :
    (slot (p + 1).toUInt64).val = ((slot p.toUInt64).val + 1) % 256 ∧
    (Channel.ofSample (p + 1).toUInt64).index = ((Channel.ofSample p.toUInt64).index + 1) % 4
  /-- A reader's cursor is at the slot of its count. -/
  cursor (p : Pipeline) :
    (slot p.cursor).val = p.consumed.toNat % 256 ∧
    (Channel.ofSample p.cursor).index = p.consumed.toNat % 4

theorem inTurn : InTurn := by
  constructor
  case index => exact index_ofSample
  case wrapped => exact fun j => (ofSample_congr (congruent_mod j)).symm
  case count =>
    intro p
    rw [ofSample_congr (congruent_mod p.toUInt64)]
    exact ⟨slot_count p, index_ofSample_count p⟩
  case next =>
    intro p
    have hsucc : (p + 1).toNat = (p.toNat + 1) % 4294967296 := by
      rw [UInt32.toNat_add, UInt32.toNat_one]
    rw [slot_count, slot_count, index_ofSample_count, index_ofSample_count, hsucc]
    omega
  case cursor => exact fun p => ⟨Feed.slot_ringIndex p.consumed, p.index_ofSample_cursor⟩

end SampleRing

open SampleRing

/-- **Samples stored by their counts lie as if stored by their indexes**: that the counts start
again in between makes no difference. -/
theorem Feed.ring_deliverAll (f : Feed) (ss : List Int16) :
    (f.deliverAll ss).ring = f.ring.writeAll f.count.toUInt64 ss := by
  induction ss generalizing f with
  | nil => rfl
  | cons s ss ih =>
    calc (f.deliverAll (s :: ss)).ring
        = (f.deliver s).ring.writeAll (f.count + 1).toUInt64 ss := ih (f.deliver s)
      _ = (f.ring.write f.count.toUInt64 s).writeAll (f.count + 1).toUInt64 ss :=
          congrArg (writeAll · _ ss) (write_congr f.ring (congruent_ringIndex f.count) s)
      _ = (f.ring.write f.count.toUInt64 s).writeAll (f.count.toUInt64 + 1) ss :=
          writeAll_congr _ (congruent_count_add_one f.count) ss

/-- **What is read back, and of which channel.** Samples stored from any index on leave in each slot
the last one that came to it, and a slot that none came to as it was. Each slot is of one channel,
by whichever of its indexes or counts it is asked for, and samples stored by their counts lie where
their indexes say, also past the wrap of the counts. -/
theorem SampleRing.reads_last (r : SampleRing) (i : UInt64) (ss : List Int16) :
    r.Leaves i ss ∧ InTurn ∧
    ∀ f : Feed, (f.deliverAll ss).ring = f.ring.writeAll f.count.toUInt64 ss :=
  ⟨leaves r i ss, inTurn, fun f => f.ring_deliverAll ss⟩

/-- Samples with their numbers for values, over the wrap of the indexes and past the start once
more; and two samples on the two sides of the wrap, with the slot after them. -/
theorem SampleRing.reads_last_over_wrap :
    (zero.writeAll 0xfffffffffffffffe ((List.range 300).map Nat.toInt16)).read 0 = 258 ∧
    (zero.writeAll 0xffffffffffffffff [7, 8]).read 0 = 8 ∧
    (zero.writeAll 0xffffffffffffffff [7, 8]).slots[slot 1] = zero.slots[slot 1] := by
  obtain ⟨hlong, -, -⟩ := reads_last zero 0xfffffffffffffffe ((List.range 300).map Nat.toInt16)
  obtain ⟨hshort, -, -⟩ := reads_last zero 0xffffffffffffffff [7, 8]
  have hlast : Last 0xfffffffffffffffe ((List.range 300).map Nat.toInt16) 0 258 258 := by
    refine ⟨rfl, rfl, fun m hm hlt hc => ?_⟩
    have hstart : (0xfffffffffffffffe : UInt64).toNat = 18446744073709551614 := rfl
    have hzero : (0 : UInt64).toNat = 0 := rfl
    rw [List.length_map, List.length_range] at hlt
    rw [congruent_add_iff, hstart, hzero] at hc
    -- none of the samples that are left is a whole round further on
    omega
  exact ⟨(hlong.read_iff 0 258).2 (.inl ⟨258, hlast⟩), hshort.recent 1 8 rfl (by decide),
    hshort.kept (slot 1) (by decide)⟩

end SensorBoard
