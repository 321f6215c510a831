import SensorBoard.Proofs.Average

/-!
# What an accumulator refuses

Both operations on a window check a bound and go on, or refuse. In the program a refusal is the end,
and the checks never fail. Here the operations are taken by themselves: on sums of any value, also
such as no samples have, and with more samples offered after one was refused.

* `Checked`: when each operation refuses, and that it has changed nothing then.
* `runOn_offerAll`: **of samples offered one by one, a window takes those that there is room for.**
* `Offered`: what becomes of a cleared window, up to the average that it is closed with.
* `checked_and_offered`: both hold of every accumulator whose total is below 2²⁸, the first with no
  regard to whether its fields belong together.
-/

namespace SensorBoard

/-! ## Means -/

/-- The sum does not depend on the order. -/
theorem clampedSum_perm {ss ts : List Int16} (h : ts.Perm ss) : clampedSum ts = clampedSum ss := by
  induction h with
  | nil => rfl
  | cons s _ ih => rw [clampedSum, clampedSum, ih]
  | swap s t ss => simp only [clampedSum]; omega
  | trans _ _ ih ih' => exact ih.trans ih'

theorem meanOf_perm {ss ts : List Int16} (h : ts.Perm ss) : meanOf ts = meanOf ss := by
  rw [meanOf, meanOf, clampedSum_perm h, h.length_eq]

/-- A sum is within its number of terms times their bounds. -/
theorem clampedSum_mem_bounds {ss : List Int16} {low high : Nat}
    (h : ∀ s ∈ ss, low ≤ (clampSample s).toNat ∧ (clampSample s).toNat ≤ high) :
    low * ss.length ≤ clampedSum ss ∧ clampedSum ss ≤ high * ss.length := by
  induction ss with
  | nil => exact ⟨Nat.le_refl _, Nat.le_refl _⟩
  | cons s ss ih =>
    obtain ⟨hlow, hhigh⟩ := h s List.mem_cons_self
    obtain ⟨ihlow, ihhigh⟩ := ih fun t ht => h t (List.mem_cons_of_mem s ht)
    rw [clampedSum, List.length_cons, Nat.mul_succ, Nat.mul_succ]
    omega

/-- Rounding down does not take a mean below the least sample. -/
theorem meanOf_mem_bounds {ss : List Int16} (hne : ss ≠ []) {low high : Nat}
    (h : ∀ s ∈ ss, low ≤ (clampSample s).toNat ∧ (clampSample s).toNat ≤ high) :
    16 * low ≤ meanOf ss ∧ meanOf ss ≤ 16 * high := by
  obtain ⟨hlow, hhigh⟩ := clampedSum_mem_bounds h
  have hpos : 0 < ss.length := List.length_pos_iff.2 hne
  constructor
  · rw [meanOf, Nat.le_div_iff_mul_le hpos, Nat.mul_assoc]
    exact Nat.mul_le_mul_left 16 hlow
  · rw [meanOf]
    refine Nat.div_le_of_le_mul ?_
    rw [Nat.mul_comm ss.length, Nat.mul_assoc]
    exact Nat.mul_le_mul_left 16 hhigh

namespace Accumulator

variable {a : Accumulator}

/-! ## One call -/

/-- The two operations on an accumulator: when they refuse, and what they do otherwise. -/
structure Checked (a : Accumulator) : Prop where
  /-- A sample is refused by a window that has 64. -/
  full (s : Int16) (e : Fatal) :
    ((accumulate s).runOn a).1 = .error e ↔ 64 ≤ a.count.toNat ∧ e = .channelOverfull
  full_kept (s : Int16) (e : Fatal) (h : ((accumulate s).runOn a).1 = .error e) :
    ((accumulate s).runOn a).2 = a
  /-- A sample that is taken is counted, with its clamped value in full. -/
  taken (s : Int16) (h : a.count.toNat < 64) :
    ((accumulate s).runOn a).1 = .ok () ∧
    ((accumulate s).runOn a).2.total.toNat = a.total.toNat + (clampSample s).toNat ∧
    ((accumulate s).runOn a).2.count.toNat = a.count.toNat + 1 ∧
    ((accumulate s).runOn a).2.average = a.average
  /-- A window is not closed with an average above 32768. -/
  excessive (e : Fatal) :
    (publish.runOn a).1 = .error e ↔
      (0 < a.count.toNat ∧ 32768 < 16 * a.total.toNat / a.count.toNat) ∧ e = .averageOutOfRange
  excessive_kept (e : Fatal) (h : (publish.runOn a).1 = .error e) : (publish.runOn a).2 = a
  /-- Else it is closed with its mean, or 0 if it has no samples. -/
  closed (h : 16 * a.total.toNat / a.count.toNat ≤ 32768) :
    ∃ v : UInt16, v.toNat = 16 * a.total.toNat / a.count.toNat ∧
      publish.runOn a = (.ok v, closed v)

theorem scaledMean_le_iff (h : a.total.toNat < 268435456) :
    a.scaledMean ≤ averageMax ↔ 16 * a.total.toNat / a.count.toNat ≤ 32768 := by
  rw [UInt32.le_iff_toNat_le, toNat_scaledMean h]
  exact Iff.rfl

theorem checked (h : a.total.toNat < 268435456) : a.Checked := by
  have hrange := scaledMean_le_iff h
  constructor
  case full =>
    intro s e
    rw [runOn_accumulate]
    split
    · rename_i hroom
      exact ⟨fun h => (by cases h), fun h => absurd h.1 (Nat.not_le.2 hroom)⟩
    · rename_i hfull
      exact ⟨fun h => by cases h; exact ⟨Nat.not_lt.1 hfull, rfl⟩, fun h => by rw [h.2]⟩
  case full_kept =>
    intro s e he
    rw [runOn_accumulate] at he ⊢
    split
    · rename_i hroom
      rw [if_pos hroom] at he
      cases he
    · rfl
  case taken =>
    intro s hroom
    have hs := clampSample_le s
    rw [runOn_accumulate, if_pos hroom]
    refine ⟨rfl, ?_, ?_, rfl⟩
    · rw [add, UInt32.toNat_add, UInt16.toNat_toUInt32]
      omega
    · rw [add, UInt16.toNat_add]
      exact Nat.mod_eq_of_lt (by simp; omega)
  case excessive =>
    intro e
    rw [runOn_publish_eq]
    split
    · rename_i hle
      have hmean := hrange.1 hle
      exact ⟨fun h => (by cases h), fun h => absurd h.1.2 (Nat.not_lt.2 hmean)⟩
    · rename_i hgt
      have hmean : 32768 < 16 * a.total.toNat / a.count.toNat :=
        Nat.lt_of_not_le fun h => hgt (hrange.2 h)
      -- a window without samples has the mean 0
      have hcount : 0 < a.count.toNat := by
        rcases Nat.eq_zero_or_pos a.count.toNat with h0 | hpos
        · rw [h0, Nat.div_zero] at hmean
          omega
        · exact hpos
      exact ⟨fun h => by cases h; exact ⟨⟨hcount, hmean⟩, rfl⟩, fun h => by rw [h.2]⟩
  case excessive_kept =>
    intro e he
    rw [runOn_publish_eq] at he ⊢
    split
    · rename_i hle
      rw [if_pos hle] at he
      cases he
    · rfl
  case closed =>
    intro hmean
    refine ⟨a.scaledMean.toUInt16, ?_, by rw [runOn_publish_eq, if_pos (hrange.2 hmean)]⟩
    rw [UInt32.toNat_toUInt16, toNat_scaledMean h]
    exact Nat.mod_eq_of_lt (by omega)

/-! ## Samples one by one -/

/-- Samples offered one by one, whether or not those before were refused, and what came of each. -/
def offerAll : List Int16 → Step Accumulator (List (Except Fatal Unit))
  | [] => return []
  | s :: ss => do
    let outcome ← (accumulate s).run
    let outcomes ← offerAll ss
    return outcome :: outcomes

/-- **A window takes the samples that there is room for**, and refuses all others, whatever its
sums are. -/
theorem runOn_offerAll (ss : List Int16) (a : Accumulator) :
    (offerAll ss).runOn a =
      ((ss.take (64 - a.count.toNat)).map (fun _ => .ok ()) ++
        (ss.drop (64 - a.count.toNat)).map fun _ => .error .channelOverfull,
       (ss.take (64 - a.count.toNat)).foldl add a) := by
  induction ss generalizing a with
  | nil => simp [offerAll]
  | cons s ss ih =>
    have hrun : (offerAll (s :: ss)).runOn a =
        (((accumulate s).runOn a).1 :: ((offerAll ss).runOn ((accumulate s).runOn a).2).1,
         ((offerAll ss).runOn ((accumulate s).runOn a).2).2) := rfl
    rw [hrun, runOn_accumulate]
    by_cases hroom : a.count.toNat < 64
    · have hcount : (a.add s).count.toNat = a.count.toNat + 1 := by
        rw [add, UInt16.toNat_add]
        exact Nat.mod_eq_of_lt (by simp; omega)
      have hleft : 64 - a.count.toNat = 64 - (a.count.toNat + 1) + 1 := by omega
      rw [if_pos hroom, ih, hcount, hleft, List.take_succ_cons, List.drop_succ_cons]
      rfl
    · -- the count does not grow any more
      have hleft : 64 - a.count.toNat = 0 := by omega
      rw [if_neg hroom, ih, hleft]
      rfl

theorem Holds.foldl_add {ts ss : List Int16} (h : a.Holds ts) (hl : ts.length + ss.length ≤ 64) :
    (ss.foldl Accumulator.add a).Holds (ts ++ ss) := by
  induction ss generalizing a ts with
  | nil => rwa [List.append_nil]
  | cons s ss ih =>
    rw [List.length_cons] at hl
    have hnext := ih (h.add (by omega) s) (by rw [List.length_append, List.length_singleton]; omega)
    rwa [List.append_assoc] at hnext

theorem average_foldl_add (ss : List Int16) (a : Accumulator) :
    (ss.foldl add a).average = a.average := by
  induction ss generalizing a with
  | nil => rfl
  | cons s ss ih => rw [List.foldl_cons, ih, average_add]

/-- Samples offered to a cleared window, which is then closed. -/
structure Offered (a : Accumulator) (ss : List Int16) : Prop where
  /-- The first 64 are taken, and every further one is refused. -/
  outcomes : ((offerAll ss).runOn a).1 =
    (ss.take 64).map (fun _ => .ok ()) ++ (ss.drop 64).map fun _ => .error .channelOverfull
  /-- The last average stays until the window is closed. -/
  average : ((offerAll ss).runOn a).2.average = a.average
  /-- To close the window succeeds, with the mean of the samples that were taken; its sums are
  cleared. -/
  published : ∃ v : UInt16,
    publish.runOn ((offerAll ss).runOn a).2 = (.ok v, closed v) ∧ (closed v).Cleared ∧
    v.toNat = 16 * clampedSum (ss.take 64) / (ss.take 64).length ∧
    (ss = [] → v = 0) ∧
    (ss ≠ [] → ∀ low high,
      (∀ s ∈ ss.take 64, low ≤ (clampSample s).toNat ∧ (clampSample s).toNat ≤ high) →
      16 * low ≤ v.toNat ∧ v.toNat ≤ 16 * high)
  /-- The same samples in another order make no difference to it. -/
  reordered (b : Accumulator) (hb : b.Cleared) (ts : List Int16) (h : ts.Perm (ss.take 64)) :
    publish.runOn ((offerAll ts).runOn b).2 = publish.runOn ((offerAll ss).runOn a).2

/-- A cleared window holds the first 64 samples that it is offered. -/
theorem holds_offerAll (h : a.Cleared) (ss : List Int16) :
    ((offerAll ss).runOn a).2.Holds (ss.take 64) := by
  have hroom : 64 - a.count.toNat = 64 := by rw [h.2]; rfl
  have hlength := List.length_take_le 64 ss
  rw [runOn_offerAll, hroom]
  exact (cleared_iff_holds.1 h).foldl_add (by rw [List.length_nil]; omega)

theorem runOn_publish_offerAll (h : a.Cleared) (ss : List Int16) :
    publish.runOn ((offerAll ss).runOn a).2 =
      (.ok (meanOf (ss.take 64)).toUInt16, closed (meanOf (ss.take 64)).toUInt16) :=
  runOn_publish (holds_offerAll h ss) (List.length_take_le 64 ss)

theorem offered (h : a.Cleared) (ss : List Int16) : a.Offered ss := by
  have hroom : 64 - a.count.toNat = 64 := by rw [h.2]; rfl
  have hvalue : (meanOf (ss.take 64)).toUInt16.toNat = meanOf (ss.take 64) := by
    have hle := meanOf_le (ss.take 64)
    rw [Nat.toUInt16_eq, UInt16.toNat_ofNat']
    exact Nat.mod_eq_of_lt (by omega)
  constructor
  case outcomes => rw [runOn_offerAll, hroom]
  case average => rw [runOn_offerAll, average_foldl_add]
  case published =>
    refine ⟨_, runOn_publish_offerAll h ss, cleared_closed _, hvalue, ?_, ?_⟩
    · rintro rfl
      rfl
    · intro hne low high hbounds
      have htaken : ss.take 64 ≠ [] := by simp [hne]
      rw [hvalue]
      exact meanOf_mem_bounds htaken hbounds
  case reordered =>
    intro b hb ts hts
    have hall : ts.take 64 = ts :=
      List.take_of_length_le (by rw [hts.length_eq]; exact List.length_take_le 64 ss)
    rw [runOn_publish_offerAll hb, runOn_publish_offerAll h, hall, meanOf_perm hts]

/-- **The law of a window.** With any sums whose total is below 2²⁸, a sample is refused by a full
window and by no other, a window is not closed just if its average would be too large, and what is
refused leaves no trace. A window that starts cleared takes the first 64 samples that it is offered
and gives their mean, between the least and the greatest of them and in any order the same. -/
theorem checked_and_offered (a : Accumulator) (h : a.total.toNat < 268435456) :
    a.Checked ∧ (a.Cleared → ∀ ss, a.Offered ss) :=
  ⟨checked h, fun hc ss => offered hc ss⟩

/-- Sums that no samples have: full, with the greatest total, which makes the average too large.
And a window that is offered one sample too many. -/
theorem full_and_overfilled :
    publish.runOn ⟨268435455, 64, 7⟩ = (.error .averageOutOfRange, ⟨268435455, 64, 7⟩) ∧
    (accumulate 5).runOn ⟨268435455, 64, 7⟩ = (.error .channelOverfull, ⟨268435455, 64, 7⟩) ∧
    ((offerAll (List.replicate 65 3000)).runOn ⟨0, 0, 7⟩).1 =
      List.replicate 64 (.ok ()) ++ [.error .channelOverfull] ∧
    publish.runOn ((offerAll (List.replicate 65 3000)).runOn ⟨0, 0, 7⟩).2 =
      (.ok 32752, closed 32752) := by
  obtain ⟨hchecked, -⟩ := checked_and_offered ⟨268435455, 64, 7⟩ (by decide)
  obtain ⟨-, hoffered⟩ := checked_and_offered ⟨0, 0, 7⟩ (by decide)
  obtain ⟨houtcomes, -, ⟨v, hpublish, -, hv, -, -⟩, -⟩ := hoffered ⟨rfl, rfl⟩ (.replicate 65 3000)
  have hexcess := (hchecked.excessive .averageOutOfRange).2 ⟨by decide, rfl⟩
  have hfull := (hchecked.full 5 .channelOverfull).2 ⟨by decide, rfl⟩
  have hvalue : v = 32752 := by
    rw [← UInt16.toNat_inj, hv]
    decide
  refine ⟨Prod.ext hexcess (hchecked.excessive_kept _ hexcess),
    Prod.ext hfull (hchecked.full_kept _ _ hfull), houtcomes, ?_⟩
  rw [hpublish, hvalue]

end Accumulator

end SensorBoard
