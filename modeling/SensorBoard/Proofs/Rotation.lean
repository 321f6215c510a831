import SensorBoard.Analog.Channel
import SensorBoard.Analog.Ring

/-!
# The rotation of the channels

Samples come in rotation, so which channel a sample is of depends on its count alone, and the counts
go on for ever modulo `2 ^ 32`, a multiple of four.

* `numbered n ss`: the samples of a stream, each with its count.
* `Channel.share`: the samples that one channel has in a numbered stream.
* `length_share`: how many these are, from the stream's first count and its length.
* `length_share_le`: **at most 56 of any 224 in a row, at every alignment.**
-/

namespace SensorBoard

/-- A place in a list that was added to is a place in the list, or the new one. -/
theorem getElem?_snoc {α : Type} {l : List α} {a x : α} {k : Nat} (h : (l ++ [a])[k]? = some x) :
    l[k]? = some x ∨ k = l.length ∧ x = a := by
  rcases Nat.lt_trichotomy k l.length with hlt | rfl | hgt
  · rw [List.getElem?_append_left hlt] at h
    exact .inl h
  · rw [List.getElem?_concat_length, Option.some.injEq] at h
    exact .inr ⟨rfl, h.symm⟩
  · rw [List.getElem?_eq_none (by simp; omega)] at h
    cases h

/-- The samples of a stream with their counts, the first of which is `n`. -/
def numbered (n : UInt32) : List Int16 → List (UInt32 × Int16)
  | [] => []
  | s :: ss => (n, s) :: numbered (n + 1) ss

@[simp] theorem numbered_nil (n : UInt32) : numbered n [] = [] := rfl

@[simp] theorem length_numbered (n : UInt32) (ss : List Int16) :
    (numbered n ss).length = ss.length := by
  induction ss generalizing n with
  | nil => rfl
  | cons s ss ih => simp [numbered, ih]

/-! ### Counts that go on from a count -/

theorem count_add_zero (n : UInt32) : n + Nat.toUInt32 0 = n := UInt32.add_zero n

theorem count_add_one (n : UInt32) (k : Nat) : n + k.toUInt32 + 1 = n + (k + 1).toUInt32 := by
  rw [← UInt32.toNat_inj]
  simp only [UInt32.toNat_add, Nat.toUInt32_eq, UInt32.toNat_ofNat', UInt32.toNat_one]
  omega

theorem count_one_add (n : UInt32) (k : Nat) : n + 1 + k.toUInt32 = n + (k + 1).toUInt32 := by
  rw [← count_add_one, UInt32.add_assoc, UInt32.add_assoc, UInt32.add_comm 1]

theorem numbered_append (n : UInt32) (ss ts : List Int16) :
    numbered n (ss ++ ts) = numbered n ss ++ numbered (n + ss.length.toUInt32) ts := by
  induction ss generalizing n with
  | nil => rw [List.length_nil, count_add_zero]; rfl
  | cons s ss ih =>
    rw [List.cons_append, numbered, ih, count_one_add]
    rfl

theorem getElem?_numbered (n : UInt32) (ss : List Int16) (i : Nat) :
    (numbered n ss)[i]? = ss[i]?.map fun s => (n + i.toUInt32, s) := by
  induction ss generalizing n i with
  | nil => rfl
  | cons s ss ih =>
    cases i with
    | zero => rw [count_add_zero]; rfl
    | succ i => rw [numbered, List.getElem?_cons_succ, List.getElem?_cons_succ, ih, count_one_add]

theorem numbered_map_range (n : UInt32) (g : Nat → Int16) (k : Nat) :
    numbered n ((List.range k).map g) = (List.range k).map fun i => (n + i.toUInt32, g i) := by
  refine List.ext_getElem? fun i => ?_
  rw [getElem?_numbered, List.getElem?_map, List.getElem?_map]
  by_cases hi : i < k
  · rw [List.getElem?_range hi]
    rfl
  · rw [List.getElem?_eq_none (by rw [List.length_range]; omega)]
    rfl

namespace Channel

theorem index_lt_four (c : Channel) : c.index < 4 := by cases c <;> decide

theorem index_inj {c d : Channel} : c.index = d.index ↔ c = d := by
  constructor
  · intro h; rw [← ofIndex_index c, h, ofIndex_index]
  · intro h; rw [h]

/-- The samples that a channel has in a numbered stream: those whose count leaves the channel's
place in the rotation. -/
def share (c : Channel) (xs : List (UInt32 × Int16)) : List Int16 :=
  (xs.filter fun x => x.1.toNat % channelCount = c.index).map Prod.snd

@[simp] theorem share_nil (c : Channel) : c.share [] = [] := rfl

theorem share_append (c : Channel) (xs ys : List (UInt32 × Int16)) :
    c.share (xs ++ ys) = c.share xs ++ c.share ys := by
  simp [share]

theorem share_singleton (c : Channel) (n : UInt32) (s : Int16) :
    c.share [(n, s)] = if n.toNat % channelCount = c.index then [s] else [] := by
  by_cases h : n.toNat % channelCount = c.index <;> simp [share, h]

/-- The number of samples, from a count on, that come before the channel's next one. -/
def wait (c : Channel) (n : UInt32) : Nat := (c.index + 4 - n.toNat % 4) % 4

/-- **A channel's part of any stretch of the stream.** -/
theorem length_share (c : Channel) (n : UInt32) (ss : List Int16) :
    (c.share (numbered n ss)).length = (ss.length + 3 - c.wait n) / 4 := by
  induction ss generalizing n with
  | nil => simp only [numbered_nil, share_nil, List.length_nil]; omega
  | cons s ss ih =>
    have hn : (n + 1).toNat % 4 = (n.toNat + 1) % 4 := by
      rw [UInt32.toNat_add, UInt32.toNat_one]; omega
    have hc := c.index_lt_four
    have hcons : numbered n (s :: ss) = [(n, s)] ++ numbered (n + 1) ss := rfl
    rw [hcons, share_append, share_singleton, List.length_append, ih, List.length_cons]
    unfold wait channelCount
    rw [hn]
    -- the first sample is the channel's own just if there is no wait
    split
    · simp only [List.length_singleton]; omega
    · simp only [List.length_nil]; omega

/-- **No channel has more than 56 samples of a backlog that is drained.** -/
theorem length_share_le (c : Channel) (n : UInt32) {ss : List Int16} (h : ss.length ≤ 224) :
    (c.share (numbered n ss)).length ≤ 56 := by
  rw [length_share]; omega

end Channel

end SensorBoard
