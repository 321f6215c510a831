import SensorBoard.Analog.Accumulator

/-!
# What a window averages

An accumulator keeps sums in machine words. `Accumulator.Holds a ss` says that they are the exact
sums of the samples `ss`, as natural numbers; as long as no more samples come than the ring can hold
of one channel, no word overflows and closing the window gives `meanOf ss`.

* `Holds.add`: one more sample, with no bit lost.
* `runOn_publish`: closing the window of at most 64 samples succeeds, with sixteen times their mean.
* `meanOf_le`: no average is above 32752, so none can reach the limit of 32768.
-/

namespace SensorBoard

/-- The sum of samples as they count. -/
def clampedSum : List Int16 → Nat
  | [] => 0
  | s :: ss => (clampSample s).toNat + clampedSum ss

/-- Sixteen times the mean of samples as they count, rounded down; 0 of no samples. -/
def meanOf (ss : List Int16) : Nat := 16 * clampedSum ss / ss.length

theorem clampSample_le (s : Int16) : (clampSample s).toNat ≤ 2047 := by
  unfold clampSample
  split
  · exact Nat.zero_le _
  · split
    · decide
    -- within the bounds the sample counts as it is
    · rename_i h0 h1
      have hs : 0 ≤ s := Int16.not_lt.1 h0
      have hm : s.toInt < 2047 := Int16.lt_iff_toInt_lt.1 (Int16.not_le.1 h1)
      rw [Int16.toNat_toUInt16_of_le hs]
      show s.toInt.toNat ≤ 2047
      omega

theorem clampedSum_concat (ss : List Int16) (s : Int16) :
    clampedSum (ss ++ [s]) = clampedSum ss + (clampSample s).toNat := by
  induction ss with
  | nil => exact Nat.add_comm ..
  | cons t ss ih => rw [List.cons_append, clampedSum, clampedSum, ih, Nat.add_assoc]

theorem clampedSum_le (ss : List Int16) : clampedSum ss ≤ 2047 * ss.length := by
  induction ss with
  | nil => exact Nat.le_refl _
  | cons s ss ih =>
    have h := clampSample_le s
    rw [clampedSum, List.length_cons]
    omega

theorem meanOf_le (ss : List Int16) : meanOf ss ≤ 32752 := by
  have h := clampedSum_le ss
  exact Nat.div_le_of_le_mul (by omega)

namespace Accumulator

/-- The window holds the samples, and its sums are exact. -/
def Holds (a : Accumulator) (ss : List Int16) : Prop :=
  a.total.toNat = clampedSum ss ∧ a.count.toNat = ss.length

/-- The window with one more sample. -/
def add (a : Accumulator) (s : Int16) : Accumulator :=
  { a with total := a.total + (clampSample s).toUInt32, count := a.count + 1 }

@[simp] theorem average_add (a : Accumulator) (s : Int16) : (a.add s).average = a.average := rfl

variable {a : Accumulator} {ss : List Int16}

theorem cleared_iff_holds : a.Cleared ↔ a.Holds [] := by
  rw [Cleared, Holds, ← UInt32.toNat_inj, ← UInt16.toNat_inj]
  rfl

/-- **Adding loses no bit.** -/
theorem Holds.add (h : a.Holds ss) (hl : ss.length < 64) (s : Int16) :
    (a.add s).Holds (ss ++ [s]) := by
  obtain ⟨ht, hc⟩ := h
  have hsum := clampedSum_le ss
  have hs := clampSample_le s
  -- the sums of 64 samples are far from the ends of their words
  constructor
  · rw [clampedSum_concat, Accumulator.add, UInt32.toNat_add, UInt16.toNat_toUInt32, ht]
    omega
  · rw [List.length_append, Accumulator.add, UInt16.toNat_add, hc]
    exact Nat.mod_eq_of_lt (by simp; omega)

theorem lt_windowLimit_iff : a.count < windowLimit ↔ a.count.toNat < 64 := UInt16.lt_iff_toNat_lt

/-- A sample is added, or refused before any change. -/
theorem runOn_accumulate (s : Int16) (a : Accumulator) :
    (accumulate s).runOn a =
      if a.count.toNat < 64 then (.ok (), a.add s) else (.error .channelOverfull, a) := by
  simp only [accumulate, Attempt.runOn_bind, Attempt.runOn_get, Attempt.follow_ok,
    Attempt.runOn_ite, lt_windowLimit_iff]
  rfl

/-- Sixteen times a total of at most 28 bits is a word, so the shift drops no bit. -/
theorem toNat_scaledMean (h : a.total.toNat < 268435456) :
    a.scaledMean.toNat = 16 * a.total.toNat / a.count.toNat := by
  unfold Accumulator.scaledMean
  split
  -- without samples there is no mean, and both sides are 0
  · rename_i h0
    have hcount : a.count.toNat = 0 := by rw [h0]; rfl
    rw [hcount, Nat.div_zero]; rfl
  · rw [UInt32.toNat_div, UInt16.toNat_toUInt32, UInt32.toNat_shiftLeft]
    have hshift : a.total.toNat <<< 4 = 16 * a.total.toNat := by rw [Nat.shiftLeft_eq]; omega
    show a.total.toNat <<< 4 % 4294967296 / a.count.toNat = _
    rw [hshift, Nat.mod_eq_of_lt (by omega)]

theorem Holds.scaledMean (h : a.Holds ss) (hl : ss.length ≤ 64) :
    a.scaledMean.toNat = meanOf ss := by
  obtain ⟨ht, hc⟩ := h
  have hsum := clampedSum_le ss
  rw [toNat_scaledMean (by omega), ht, hc, meanOf]

/-- The accumulator after its window was closed with an average. -/
def closed (average : UInt16) : Accumulator := { average }

@[simp] theorem average_closed (v : UInt16) : (closed v).average = v := rfl

theorem cleared_closed (v : UInt16) : (closed v).Cleared := ⟨rfl, rfl⟩

/-- A window is closed with its mean, or refused before any change. -/
theorem runOn_publish_eq (a : Accumulator) :
    publish.runOn a =
      if a.scaledMean ≤ averageMax then (.ok a.scaledMean.toUInt16, closed a.scaledMean.toUInt16)
      else (.error .averageOutOfRange, a) := by
  simp only [publish, Attempt.runOn_bind, Attempt.runOn_get, Attempt.follow_ok, Attempt.runOn_ite]
  rfl

theorem publish_error {e : Fatal} (h : (publish.runOn a).1 = .error e) :
    e = .averageOutOfRange := by
  rw [runOn_publish_eq] at h
  split at h <;> cases h
  rfl

/-- **Closing a window that fits the ring succeeds.** -/
theorem runOn_publish (h : a.Holds ss) (hl : ss.length ≤ 64) :
    publish.runOn a = (.ok (meanOf ss).toUInt16, closed (meanOf ss).toUInt16) := by
  have hm := h.scaledMean hl
  have hle : a.scaledMean ≤ averageMax := by
    rw [UInt32.le_iff_toNat_le, hm]
    exact Nat.le_trans (meanOf_le ss) (by decide)
  have hv : a.scaledMean.toUInt16 = (meanOf ss).toUInt16 := by
    rw [← UInt16.toNat_inj, UInt32.toNat_toUInt16, hm]; rfl
  rw [runOn_publish_eq, if_pos hle, hv]

end Accumulator

end SensorBoard
