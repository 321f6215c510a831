import SensorBoard.Board.CaptureCounter
import SensorBoard.Proofs.Exposed
import SensorBoard.Proofs.History

/-!
# The capture counter counts

The capture counter is put together from a timer that counts microseconds and a fine counter of 16
bits, read one after the other. Both count the ticks of one crystal, `Clocks` says from where. Three
wraps take part, those of the fine counter, of the timer and of the result; and the time between the
two reads is not always the same.

* `extendLow_of_near`: a count is restored from its low half if the coarse estimate is within half a
  turn of it.
* `Clocks.toNat_coarse_skew`: the estimate is that near, as long as the two reads of a count are
  about as far apart as those at the start.
* `now_exact`: a count is the tick of its second read, from a zero that never moves.
* `start_counts`: **from its start on, the counter is an exact count of ticks, and the widths of
  pulses are taken from exact high times.**
-/

namespace SensorBoard

/-! ## Restoring a count -/

theorem toNat_signExtend (y : UInt16) :
    y.toInt16.toInt32.toUInt32.toNat =
      if y.toNat < 32768 then y.toNat else y.toNat + 4294901760 := by
  have hext : y.toInt16.toInt32.toUInt32.toNat = (y.toBitVec.signExtend 32).toNat := rfl
  have hsign : y.toBitVec.msb = decide (32768 ≤ y.toNat) := BitVec.msb_eq_decide y.toBitVec
  have hwide : (y.toBitVec.setWidth 32).toNat = y.toNat := by
    have hlt := y.toNat_lt
    rw [BitVec.toNat_setWidth]
    exact Nat.mod_eq_of_lt (by simp; omega)
  rw [hext, BitVec.toNat_signExtend, hwide, hsign]
  by_cases hy : y.toNat < 32768
  · rw [if_neg (by simpa using hy), if_pos hy, Nat.add_zero]
  · rw [if_pos (by simpa using hy), if_neg hy]

/-- A count that an estimate is near to is restored from its low half, across any boundary that
lies between the two. -/
theorem extendLow_of_near {coarse count : UInt32} (h : (count - coarse + 32768).toNat < 65536) :
    extendLow coarse count.toUInt16 = count := by
  have hcoarse := coarse.toNat_lt
  have hcount := count.toNat_lt
  have hhalf : (32768 : UInt32).toNat = 32768 := rfl
  rw [UInt32.toNat_add, UInt32.toNat_sub, hhalf] at h
  rw [← UInt32.toNat_inj]
  unfold extendLow
  rw [UInt32.toNat_add, toNat_signExtend, UInt16.toNat_sub, UInt32.toNat_toUInt16,
    UInt32.toNat_toUInt16]
  split <;> omega

/-! ## Two counters on one crystal -/

/-- Where the fine counter and the timer stand at tick 0 of the crystal. -/
structure Clocks where
  slice : Nat
  timer : Nat
  /-- The ticks that the timer's current microsecond is old. -/
  lead : Nat

namespace Clocks

/-- The fine counter after a number of ticks. -/
def sliceAt (k : Clocks) (t : Nat) : UInt16 := (t + k.slice).toUInt16

/-- The timer after a number of ticks. -/
def timerAt (k : Clocks) (t : Nat) : UInt32 := ((t + k.lead) / 50 + k.timer).toUInt32

/-- What the start measures, if the timer is read at tick `t₀` and the fine counter `d₀` ticks
later. -/
def phase (k : Clocks) (t₀ d₀ : Nat) : UInt32 :=
  (k.sliceAt (t₀ + d₀) - (k.timerAt t₀ * countsPerUs).toUInt16).toUInt32

/-- What the counter shows at tick 0. -/
def zero (k : Clocks) (t₀ d₀ : Nat) : UInt32 :=
  k.phase t₀ d₀ + (k.lead + 50 * k.timer).toUInt32 - (d₀ + (t₀ + k.lead) % 50).toUInt32

variable (k : Clocks)

theorem toNat_sliceAt (t : Nat) : (k.sliceAt t).toNat = (t + k.slice) % 65536 := by
  rw [sliceAt, Nat.toUInt16_eq, UInt16.toNat_ofNat']

/-- The timer in ticks is behind by the part of the microsecond that has passed. -/
theorem toNat_timerAt_mul (t : Nat) :
    (k.timerAt t * countsPerUs).toNat =
      (t + k.lead - (t + k.lead) % 50 + 50 * k.timer) % 4294967296 := by
  have hcounts : countsPerUs.toNat = 50 := rfl
  rw [UInt32.toNat_mul, hcounts, timerAt, Nat.toUInt32_eq, UInt32.toNat_ofNat']
  omega

theorem toNat_phase (t₀ d₀ : Nat) :
    (k.phase t₀ d₀).toNat < 65536 ∧
      ((k.phase t₀ d₀).toNat + (t₀ + k.lead - (t₀ + k.lead) % 50 + 50 * k.timer)) % 65536 =
        (t₀ + d₀ + k.slice) % 65536 := by
  have hticks := k.toNat_timerAt_mul t₀
  rw [phase, UInt16.toNat_toUInt32, UInt16.toNat_sub, UInt32.toNat_toUInt16, hticks, toNat_sliceAt]
  omega

theorem toNat_zero (t₀ d₀ : Nat) : (k.zero t₀ d₀).toNat =
    ((k.phase t₀ d₀).toNat + k.lead + 50 * k.timer +
      (4294967296 - (d₀ + (t₀ + k.lead) % 50) % 4294967296)) % 4294967296 := by
  rw [zero, UInt32.toNat_sub, UInt32.toNat_add]
  simp only [Nat.toUInt32_eq, UInt32.toNat_ofNat']
  omega

/-- The fine counter is the low half of the count. -/
theorem sliceAt_eq (t₀ d₀ s : Nat) : k.sliceAt s = (s.toUInt32 + k.zero t₀ d₀).toUInt16 := by
  obtain ⟨-, hphase⟩ := k.toNat_phase t₀ d₀
  rw [← UInt16.toNat_inj, toNat_sliceAt, UInt32.toNat_toUInt16, UInt32.toNat_add, toNat_zero,
    Nat.toUInt32_eq, UInt32.toNat_ofNat']
  -- the phase was measured so that the two agree modulo 65536
  omega

/-- The estimate misses the count by the difference of the two delays, and by less than a
microsecond either way. -/
theorem toNat_coarse_skew {t₀ d₀ t d : Nat} (hlate : d ≤ d₀ + 32700) (hearly : d₀ ≤ d + 32700) :
    ((t + d).toUInt32 + k.zero t₀ d₀ - (k.timerAt t * countsPerUs + k.phase t₀ d₀) +
      32768).toNat < 65536 := by
  have hticks := k.toNat_timerAt_mul t
  obtain ⟨hlt, -⟩ := k.toNat_phase t₀ d₀
  have hhalf : (32768 : UInt32).toNat = 32768 := rfl
  rw [UInt32.toNat_add, UInt32.toNat_sub, UInt32.toNat_add, UInt32.toNat_add, toNat_zero, hticks,
    hhalf, Nat.toUInt32_eq, UInt32.toNat_ofNat']
  -- what remains are the two delays and two parts of a microsecond, below 50 ticks each
  omega

theorem extendLow_exact {t₀ d₀ t d : Nat} (hlate : d ≤ d₀ + 32700) (hearly : d₀ ≤ d + 32700) :
    extendLow (k.timerAt t * countsPerUs + k.phase t₀ d₀) (k.sliceAt (t + d)) =
      (t + d).toUInt32 + k.zero t₀ d₀ := by
  rw [k.sliceAt_eq t₀ d₀ (t + d)]
  exact extendLow_of_near (k.toNat_coarse_skew hlate hearly)

end Clocks

/-! ## The counter in a world -/

variable {σ : Type} [Device σ]

/-- In a world, the timer read next stands as at tick `t`, and the fine counter read after it as
`d` ticks later. -/
structure Clocks.Read (k : Clocks) (w : σ) (t d : Nat) : Prop where
  timer : ((Device.timer : Step σ UInt32).runOn w).1 = k.timerAt t
  slice : ((Device.slice : Step σ UInt16).runOn
    ((Device.timer : Step σ UInt32).runOn w).2).1 = k.sliceAt (t + d)

/-- A count that is read next gets its low half at tick `s`, and takes about as long as the `d₀`
ticks of the start. -/
def Clocks.CountAt (k : Clocks) (d₀ : Nat) (w : σ) (s : Nat) : Prop :=
  ∃ t d, k.Read w t d ∧ s = t + d ∧ d ≤ d₀ + 32700 ∧ d₀ ≤ d + 32700

namespace CaptureCounter

/-- The start up to its first read. -/
def prepare : Step σ Unit := do
  perform (.sliceDividerWhole 2)
  perform (.sliceDividerPart 8)
  perform (.sliceTop 0xffff)
  perform .sliceEnable

variable {k : Clocks} {t₀ d₀ : Nat}

theorem offset_start [Logger σ] {w : σ} (h : k.Read (prepare.runOn w).2 t₀ d₀) :
    (start.runOn w).1.offset = k.phase t₀ d₀ := by
  have hrun : (start.runOn w).1.offset =
      (((Device.slice : Step σ UInt16).runOn
        ((Device.timer : Step σ UInt32).runOn (prepare.runOn w).2).2).1 -
      (((Device.timer : Step σ UInt32).runOn (prepare.runOn w).2).1 * countsPerUs +
        0).toUInt16).toUInt32 := rfl
  rw [hrun, h.timer, h.slice, UInt32.add_zero]
  rfl

theorem now_exact {c : CaptureCounter} (hc : c.offset = k.phase t₀ d₀) {w : σ} {s : Nat}
    (h : k.CountAt d₀ w s) : (c.now.runOn w).1 = s.toUInt32 + k.zero t₀ d₀ := by
  obtain ⟨t, d, hread, rfl, hlate, hearly⟩ := h
  have hrun : (c.now.runOn w).1 =
      extendLow (((Device.timer : Step σ UInt32).runOn w).1 * countsPerUs + c.offset)
        ((Device.slice : Step σ UInt16).runOn
          ((Device.timer : Step σ UInt32).runOn w).2).1 := rfl
  rw [hrun, hread.timer, hread.slice, hc]
  exact k.extendLow_exact hlate hearly

/-- The zero cancels in a difference. -/
theorem toNat_sub_counts {s₁ s₂ : Nat} (h : s₁ < s₂) (hlt : s₂ - s₁ < UInt32.size) (zero : UInt32) :
    (s₂.toUInt32 + zero - (s₁.toUInt32 + zero)).toNat = s₂ - s₁ := by
  have hzero := zero.toNat_lt
  have hsize : UInt32.size = 4294967296 := rfl
  rw [UInt32.toNat_sub, UInt32.toNat_add, UInt32.toNat_add]
  simp only [Nat.toUInt32_eq, UInt32.toNat_ofNat']
  omega

/-- **The counter is an exact count of ticks.** A counter is started, where the timer and the fine
counter are read some `d₀` ticks apart. From then on every count is the number of ticks so far, from
one and the same zero, in 32 bits. And a pulse whose rise and fall take such counts shows the width
of its exact high time. -/
theorem start_counts [Logger σ] {w₀ : σ} (h₀ : k.Read (prepare.runOn w₀).2 t₀ d₀) :
    let c := (start.runOn w₀).1
    (∃ zero : UInt32, ∀ (w : σ) (s : Nat), k.CountAt d₀ w s →
      (c.now.runOn w).1 = s.toUInt32 + zero) ∧
    ∀ (window : Window) (es : List PulseEvent) (l : Line) (rise fall : Batch) (w₁ w₂ : σ)
      (s₁ s₂ : Nat), l.carriesPulses = true → LastPulse l (batches window 0 es) rise fall →
      k.CountAt d₀ w₁ s₁ → rise.now = (c.now.runOn w₁).1 →
      k.CountAt d₀ w₂ s₂ → fall.now = (c.now.runOn w₂).1 →
      s₁ < s₂ → s₂ - s₁ < UInt32.size →
      ∃ high : UInt32, high.toNat = s₂ - s₁ ∧
        ((Capture.start window).run es).widths.get l = fall.window.width high := by
  intro c
  have hc : c.offset = k.phase t₀ d₀ := offset_start h₀
  refine ⟨⟨k.zero t₀ d₀, fun w s h => now_exact hc h⟩, ?_⟩
  intro window es l rise fall w₁ w₂ s₁ s₂ hcar hpulse h₁ hrise h₂ hfall hlt hspan
  refine ⟨fall.now - rise.now, ?_, Capture.widths_run window es hcar hpulse⟩
  rw [hfall, hrise, now_exact hc h₁, now_exact hc h₂]
  exact toNat_sub_counts hlt hspan _

/-- A machine on which the timer wraps after 60000 ticks, some time after its reset. Its next
operations are prompt, up to one that is late. -/
def lateAfter (prompt late clock : Nat) : Exposed where
  machine := { chip := { clock, timerStart := 4294966096, sliceStart := 60000 } }
  coming := .replicate prompt [] ++ [[.advance late]]

/-- A pulse over the wrap of the timer, with a fall that takes 30000 ticks to be read. Tick 0 is the
thirteenth tick of the crystal here. -/
theorem start_counts_over_wrap :
    let c := (start.runOn (lateAfter 5 25 1000)).1
    let rise := (c.now.runOn (lateAfter 1 3 49013)).1
    let fall := (c.now.runOn (lateAfter 1 30000 79016)).1
    ((Capture.start .reference).run [.snapshot 0b0010 rise, .snapshot 0 fall]).widths.get .gp1 =
      17171 := by
  intro c rise fall
  have hstart : Clocks.Read ⟨60013, 4294966096, 13⟩
      (prepare.runOn (lateAfter 5 25 1000)).2 987 25 :=
    ⟨by decide +kernel, by decide +kernel⟩
  obtain ⟨-, hpulses⟩ := start_counts hstart
  have hrise : Clocks.CountAt ⟨60013, 4294966096, 13⟩ 25 (lateAfter 1 3 49013) 49003 :=
    ⟨49000, 3, ⟨by decide +kernel, by decide +kernel⟩, by decide, by decide, by decide⟩
  have hfall : Clocks.CountAt ⟨60013, 4294966096, 13⟩ 25 (lateAfter 1 30000 79016) 109003 :=
    ⟨79003, 30000, ⟨by decide +kernel, by decide +kernel⟩, by decide, by decide, by decide⟩
  obtain ⟨high, hhigh, hwidth⟩ :=
    hpulses .reference [.snapshot 0b0010 rise, .snapshot 0 fall] .gp1
      ⟨.reference, 0, 0b0010, rise⟩ ⟨.reference, 0b0010, 0, fall⟩
      (lateAfter 1 3 49013) (lateAfter 1 30000 79016) 49003 109003 rfl
      ⟨[], [], [], rfl, ⟨by decide, by decide⟩, ⟨by decide, by decide⟩, by simp, by simp⟩
      hrise rfl hfall rfl (by decide) (by decide)
  have hticks : high = 60000 := UInt32.toNat_inj.1 hhigh
  rw [hwidth, hticks]
  decide

end CaptureCounter

end SensorBoard
