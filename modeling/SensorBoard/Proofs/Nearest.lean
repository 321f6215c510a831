import SensorBoard.Proofs.Timing

/-!
# The nearest count

A count is restored from an estimate and its exact low half. Among the counts with this low half
there is one in every 65536, on a circle of 2³² counts, and the estimate may be on the other side of
the wrap, or of a boundary of the low half, either way. The distance from the estimate is read with
a sign, and the window that it has to be in is not symmetric.

* `gap`: how far a count is ahead of an estimate, the shorter way around.
* `near_iff_gap`: the window of gaps as one comparison of words.
* `extendLow_nearest`: **the restored count is the one count in the window, no other with this low
  half is nearer, and every count in the window is restored.**
-/

namespace SensorBoard

/-- How far a count is ahead of an estimate, around the wrap; below zero if it is behind. -/
def gap (coarse count : UInt32) : Int := (count - coarse).toInt32.toInt

/-- The count has the low half `low`, and the estimate is within half a turn of the fine counter. -/
structure Nearest (coarse : UInt32) (low : UInt16) (count : UInt32) : Prop where
  low : count.toNat % 65536 = low.toNat
  behind : -32768 ≤ gap coarse count
  ahead : gap coarse count ≤ 32767

/-- A gap by the two counts: in the upper half of the circle it is taken the other way. -/
theorem gap_eq (coarse count : UInt32) :
    gap coarse count =
      if (count - coarse).toNat < 2147483648 then ((count - coarse).toNat : Int)
      else ((count - coarse).toNat : Int) - 4294967296 := by
  have htoInt : gap coarse count = (count - coarse).toBitVec.toInt := rfl
  have htoNat : (count - coarse).toBitVec.toNat = (count - coarse).toNat := rfl
  rw [htoInt, BitVec.toInt_eq_toNat_cond, htoNat]
  split <;> split <;> omega

/-- A gap is in the window if it is below 65536 once shifted by half of that. -/
theorem near_iff_gap (coarse count : UInt32) :
    (count - coarse + 32768).toNat < 65536 ↔
      -32768 ≤ gap coarse count ∧ gap coarse count ≤ 32767 := by
  have hlt := (count - coarse).toNat_lt
  have hhalf : (32768 : UInt32).toNat = 32768 := rfl
  rw [gap_eq, UInt32.toNat_add, hhalf]
  split <;> omega

/-- The restored count is ahead by the difference of the low halves, read with a sign. -/
theorem sub_extendLow (coarse : UInt32) (low : UInt16) :
    extendLow coarse low - coarse = (low - coarse.toUInt16).toInt16.toInt32.toUInt32 := by
  rw [extendLow, UInt32.add_comm, UInt32.add_sub_cancel]

theorem near_extendLow (coarse : UInt32) (low : UInt16) :
    (extendLow coarse low - coarse + 32768).toNat < 65536 := by
  have hlt := (low - coarse.toUInt16).toNat_lt
  have hhalf : (32768 : UInt32).toNat = 32768 := rfl
  rw [sub_extendLow, UInt32.toNat_add, toNat_signExtend, hhalf]
  split <;> omega

/-- The sign extension does not reach the low half. -/
theorem toNat_extendLow_mod (coarse : UInt32) (low : UInt16) :
    (extendLow coarse low).toNat % 65536 = low.toNat := by
  have hlow := low.toNat_lt
  have hcoarse := coarse.toNat_lt
  unfold extendLow
  rw [UInt32.toNat_add, toNat_signExtend, UInt16.toNat_sub, UInt32.toNat_toUInt16]
  split <;> omega

theorem nearest_extend (coarse : UInt32) (low : UInt16) :
    Nearest coarse low (extendLow coarse low) := by
  obtain ⟨hbehind, hahead⟩ := (near_iff_gap _ _).1 (near_extendLow coarse low)
  exact ⟨toNat_extendLow_mod coarse low, hbehind, hahead⟩

/-- There is no other count in the window. -/
theorem Nearest.eq_extendLow {coarse count : UInt32} {low : UInt16} (h : Nearest coarse low count) :
    count = extendLow coarse low := by
  have hlow : count.toUInt16 = low := by
    rw [← UInt16.toNat_inj, UInt32.toNat_toUInt16]
    exact h.low
  rw [← hlow]
  exact (extendLow_of_near ((near_iff_gap _ _).2 ⟨h.behind, h.ahead⟩)).symm

/-- Outside the window a count is at least as far away as any count in it. -/
theorem Nearest.natAbs_gap_le {coarse count other : UInt32} {low : UInt16}
    (h : Nearest coarse low count) (hlow : other.toNat % 65536 = low.toNat) :
    (gap coarse count).natAbs ≤ (gap coarse other).natAbs := by
  have hbehind := h.behind
  have hahead := h.ahead
  by_cases hwindow : -32768 ≤ gap coarse other ∧ gap coarse other ≤ 32767
  · have hother : Nearest coarse low other := ⟨hlow, hwindow.1, hwindow.2⟩
    have hsame : count = other := h.eq_extendLow.trans hother.eq_extendLow.symm
    exact Nat.le_of_eq (congrArg (fun r => (gap coarse r).natAbs) hsame)
  · omega

/-- **The restored count is the nearest.** It is the one count with this low half in the window
around the estimate, and no other with this low half is nearer. So every count in the window is
restored: one of 32 bits, and one of a counter that has no width, also if the count and its estimate
are on two sides of a wrap. -/
theorem extendLow_nearest (coarse : UInt32) (low : UInt16) :
    (∀ count, Nearest coarse low count ↔ count = extendLow coarse low) ∧
    (∀ other : UInt32, other.toNat % 65536 = low.toNat →
      (gap coarse (extendLow coarse low)).natAbs ≤ (gap coarse other).natAbs) ∧
    (∀ count, -32768 ≤ gap coarse count → gap coarse count ≤ 32767 →
      extendLow coarse (count.toNat % 65536).toUInt16 = count) ∧
    ∀ t estimate : Nat, t ≤ estimate + 32767 → estimate ≤ t + 32768 →
      extendLow estimate.toUInt32 t.toUInt16 = t.toUInt32 := by
  refine ⟨fun count => ⟨fun h => h.eq_extendLow, fun h => ?_⟩,
    fun other h => (nearest_extend coarse low).natAbs_gap_le h,
    fun count hbehind hahead => ?_, fun t estimate hahead hbehind => ?_⟩
  · rw [h]
    exact nearest_extend coarse low
  · have hlow : (count.toNat % 65536).toUInt16 = count.toUInt16 := by
      rw [← UInt16.toNat_inj, UInt32.toNat_toUInt16, Nat.toUInt16_eq, UInt16.toNat_ofNat']
      omega
    rw [hlow]
    exact extendLow_of_near ((near_iff_gap _ _).2 ⟨hbehind, hahead⟩)
  · have hlow : t.toUInt16 = t.toUInt32.toUInt16 := by
      rw [← UInt16.toNat_inj, UInt32.toNat_toUInt16, Nat.toUInt16_eq, UInt16.toNat_ofNat',
        Nat.toUInt32_eq, UInt32.toNat_ofNat']
      omega
    have hnear : (t.toUInt32 - estimate.toUInt32 + 32768).toNat < 65536 := by
      have hhalf : (32768 : UInt32).toNat = 32768 := rfl
      rw [UInt32.toNat_add, UInt32.toNat_sub, hhalf]
      simp only [Nat.toUInt32_eq, UInt32.toNat_ofNat']
      omega
    rw [hlow]
    exact extendLow_of_near hnear

/-- The two ends of the window, and a count on either side of the wrap. -/
example : extendLow 0x00010000 0x7fff = 0x00017fff ∧ extendLow 0x00010000 0x8000 = 0x00008000 ∧
    extendLow 0xffffff00 0x0010 = 0x00000010 ∧ extendLow 0x00000010 0xff00 = 0xffffff00 := by
  decide

end SensorBoard
