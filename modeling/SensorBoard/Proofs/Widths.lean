import SensorBoard.Pulse.Window

/-!
# What a window tells apart

A window maps high times of 32 bits to widths of 16. Within it a width is a difference cut to 16
bits, so it depends on the window's span whether it can wrap; and a window that is fitted to a
counter comes out of two divisions in 64 bits, whose order decides whether there is one at all.

* `toNat_width`: a width, by its number.
* `Narrow`: a window in which no width wraps; then a width is the time above the lower bound, held
  at 65535 (`Narrow.toNat_width`).
* `monotone_width_iff`: **a window never reads a longer time as a smaller width just if its span is
  at most 65536**, and one tick more makes it wrap.
* `forCounterHz_exact`: **a counter has a window just if its rate is above 465 Hz**. The bounds are
  exact, and neither 0 nor 65535 is read for a time that lies between them.
-/

namespace SensorBoard.Window

/-! ## Widths by their numbers -/

variable {w : Window}

theorem low_lt_high_toNat (w : Window) : w.low.toNat < w.high.toNat :=
  UInt32.lt_iff_toNat_lt.1 w.low_lt_high

theorem toNat_width (w : Window) (d : UInt32) :
    (w.width d).toNat =
      if d.toNat ≤ w.low.toNat then 0
      else if w.high.toNat ≤ d.toNat then 65535
      else (d.toNat - w.low.toNat) % 65536 := by
  have hlow : d ≤ w.low ↔ d.toNat ≤ w.low.toNat := UInt32.le_iff_toNat_le
  have hhigh : d ≥ w.high ↔ w.high.toNat ≤ d.toNat := UInt32.le_iff_toNat_le
  unfold width
  by_cases hl : d.toNat ≤ w.low.toNat
  · rw [if_pos (hlow.2 hl), if_pos hl]
    rfl
  rw [if_neg (mt hlow.1 hl), if_neg hl]
  by_cases hh : w.high.toNat ≤ d.toNat
  · rw [if_pos (hhigh.2 hh), if_pos hh]
    rfl
  · have hle : w.low ≤ d := UInt32.le_iff_toNat_le.2 (by omega)
    rw [if_neg (mt hhigh.1 hh), if_neg hh, UInt32.toNat_toUInt16, UInt32.toNat_sub_of_le _ _ hle]

/-- No time within the window is more than 65535 ticks above its lower bound. -/
def Narrow (w : Window) : Prop := w.high.toNat ≤ w.low.toNat + 65536

theorem Narrow.toNat_width (h : w.Narrow) (d : UInt32) :
    (w.width d).toNat = if w.high.toNat ≤ d.toNat then 65535 else d.toNat - w.low.toNat := by
  have hlt := w.low_lt_high_toNat
  unfold Narrow at h
  rw [Window.toNat_width]
  by_cases hl : d.toNat ≤ w.low.toNat
  · rw [if_pos hl, if_neg (by omega)]
    omega
  rw [if_neg hl]
  by_cases hh : w.high.toNat ≤ d.toNat
  · rw [if_pos hh, if_pos hh]
  · rw [if_neg hh, if_neg hh]
    exact Nat.mod_eq_of_lt (by omega)

theorem Narrow.width_le (h : w.Narrow) {d d' : UInt32} (hd : d ≤ d') : w.width d ≤ w.width d' := by
  have hle := UInt32.le_iff_toNat_le.1 hd
  have hwide : (w.width d).toNat ≤ 65535 := Nat.le_of_lt_succ (w.width d).toNat_lt
  unfold Narrow at h
  rw [UInt16.le_iff_toNat_le]
  rw [Narrow.toNat_width h d] at hwide ⊢
  rw [Narrow.toNat_width h d']
  by_cases hh' : w.high.toNat ≤ d'.toNat
  · rw [if_pos hh']
    exact hwide
  · rw [if_neg hh', if_neg (by omega)]
    omega

/-! ## Windows with explicit bounds -/

theorem between_eq_ok {low high : UInt32} (h : low < high) :
    between low high = .ok ⟨low, high, h⟩ := dif_pos h

theorem between_eq_error_iff {low high : UInt32} :
    between low high = .error .emptyWindow ↔ high ≤ low := by
  unfold between
  by_cases h : low < high
  · rw [dif_pos h]
    exact iff_of_false nofun (UInt32.not_le.2 h)
  · rw [dif_neg h]
    exact iff_of_true rfl (UInt32.not_lt.1 h)

/-- A window that is too wide reads 65535 for some time within it, and 0 for the next one. -/
theorem exists_wrap (h : ¬w.Narrow) :
    ∃ d d', w.low < d ∧ d < d' ∧ d' < w.high ∧ w.width d = 65535 ∧ w.width d' = 0 := by
  have hhigh := w.high.toNat_lt
  unfold Narrow at h
  have htime (k : Nat) (hk : k ≤ 65536) : (w.low.toNat + k).toUInt32.toNat = w.low.toNat + k := by
    rw [Nat.toUInt32_eq, UInt32.toNat_ofNat']
    omega
  have hfull := htime 65535 (by omega)
  have hnext := htime 65536 (by omega)
  refine ⟨(w.low.toNat + 65535).toUInt32, (w.low.toNat + 65536).toUInt32, ?_, ?_, ?_, ?_, ?_⟩
  · rw [UInt32.lt_iff_toNat_lt]; omega
  · rw [UInt32.lt_iff_toNat_lt]; omega
  · rw [UInt32.lt_iff_toNat_lt]; omega
  · rw [← UInt16.toNat_inj, toNat_width, hfull, if_neg (by omega), if_neg (by omega)]
    show (w.low.toNat + 65535 - w.low.toNat) % 65536 = 65535
    omega
  · rw [← UInt16.toNat_inj, toNat_width, hnext, if_neg (by omega), if_neg (by omega)]
    show (w.low.toNat + 65536 - w.low.toNat) % 65536 = 0
    omega

/-- **The exact limit of a window.** A window with given bounds exists whenever the lower one is
below the upper one. Its widths never fall as the time grows just if it spans at most 65536 ticks;
then a width within it is the time above the lower bound, held at 65535. In any wider window a time
that reads 65535 comes before one that reads 0. -/
theorem monotone_width_iff (low high : UInt32) (h : low < high) :
    ∃ w, between low high = .ok w ∧
      ((∀ d d', d ≤ d' → w.width d ≤ w.width d') ↔ high.toNat - low.toNat ≤ 65536) ∧
      (high.toNat - low.toNat ≤ 65536 → ∀ d, low < d → d < high →
        (w.width d).toNat = min (d.toNat - low.toNat) 65535) ∧
      (65537 ≤ high.toNat - low.toNat → ∃ d d', low < d ∧ d < d' ∧ d' < high ∧
        w.width d = 65535 ∧ w.width d' = 0) := by
  let w : Window := ⟨low, high, h⟩
  have hlt : low.toNat < high.toNat := w.low_lt_high_toNat
  have hspan : w.Narrow ↔ high.toNat - low.toNat ≤ 65536 := by
    show high.toNat ≤ low.toNat + 65536 ↔ _
    omega
  refine ⟨w, between_eq_ok h, ⟨fun hmono => ?_, fun hs d d' => ?_⟩, fun hs d _ hd => ?_,
    fun hs => ?_⟩
  · refine Decidable.byContradiction fun hs => ?_
    obtain ⟨d, d', -, hdd, -, hfull, hzero⟩ := exists_wrap (mt hspan.1 hs)
    have hle := hmono d d' (UInt32.le_of_lt hdd)
    rw [hfull, hzero] at hle
    exact absurd hle (by decide)
  · exact (hspan.2 hs).width_le
  · have hd' : d.toNat < high.toNat := UInt32.lt_iff_toNat_lt.1 hd
    rw [(hspan.2 hs).toNat_width, if_neg (Nat.not_le.2 hd')]
    show d.toNat - low.toNat = min (d.toNat - low.toNat) 65535
    omega
  · exact exists_wrap (w := w) (by rw [hspan]; omega)

/-- The highest window that is one tick too wide. -/
theorem monotone_width_iff_at_the_top :
    (4294901758 : UInt32) < 4294967295 ∧
    ∃ w, between 4294901758 4294967295 = .ok w ∧ (¬∀ d d', d ≤ d' → w.width d ≤ w.width d') ∧
      ∃ d d', d < d' ∧ d' < (4294967295 : UInt32) ∧ w.width d = 65535 ∧ w.width d' = 0 := by
  have hlt : (4294901758 : UInt32) < 4294967295 := by decide
  obtain ⟨w, hw, hiff, -, hwrap⟩ := monotone_width_iff 4294901758 4294967295 hlt
  obtain ⟨d, d', -, hdd, hd', hfull, hzero⟩ := hwrap (by decide)
  exact ⟨hlt, w, hw, mt hiff.1 (by decide), d, d', hdd, hd', hfull, hzero⟩

/-! ## Windows for a counter -/

/-- Two words have their whole product in 64 bits. -/
theorem toNat_mul_toUInt64 (a b : UInt32) :
    (a.toUInt64 * b.toUInt64).toNat = a.toNat * b.toNat := by
  have ha := a.toNat_lt
  have hb := b.toNat_lt
  have hprod : a.toNat * b.toNat ≤ 4294967295 * 4294967295 := Nat.mul_le_mul (by omega) (by omega)
  rw [UInt64.toNat_mul, UInt32.toNat_toUInt64, UInt32.toNat_toUInt64]
  exact Nat.mod_eq_of_lt (by omega)

/-- The ticks in at most a second fit a word. -/
theorem toNat_ticksIn (hz : UInt32) {us : UInt32} (hus : us.toNat ≤ 1000000) :
    (ticksIn hz us).toNat = hz.toNat * us.toNat / 1000000 := by
  have hhz := hz.toNat_lt
  have hprod : hz.toNat * us.toNat ≤ hz.toNat * 1000000 := Nat.mul_le_mul_left _ hus
  have hmillion : (1000000 : UInt64).toNat = 1000000 := rfl
  rw [ticksIn, UInt64.toNat_toUInt32, UInt64.toNat_div, toNat_mul_toUInt64, hmillion]
  exact Nat.mod_eq_of_lt (by omega)

theorem toNat_addSaturating {a b : UInt32} (h : a.toNat + b.toNat < UInt32.size) :
    (addSaturating a b).toNat = a.toNat + b.toNat := by
  have hsum : (a + b).toNat = a.toNat + b.toNat := by
    rw [UInt32.toNat_add]
    exact Nat.mod_eq_of_lt h
  have hge : ¬a + b < a := by
    rw [UInt32.lt_iff_toNat_lt]
    omega
  rw [addSaturating, if_neg hge, hsum]

/-- What a rate gives, before it is known whether there is a window: no step drops a bit. -/
structure Lossless (hz : UInt32) : Prop where
  products : ∀ us ∈ [pulseMinUs, pulseMaxUs],
    (hz.toUInt64 * us.toUInt64).toNat = hz.toNat * us.toNat
  low : (ticksIn hz pulseMinUs).toNat = hz.toNat * 850 / 1000000
  high : (ticksIn hz pulseMaxUs).toNat = hz.toNat * 2150 / 1000000
  cap : (addSaturating (ticksIn hz pulseMinUs) 0xffff).toNat = hz.toNat * 850 / 1000000 + 65535

theorem lossless (hz : UInt32) : Lossless hz := by
  have hhz := hz.toNat_lt
  have hlow : (ticksIn hz pulseMinUs).toNat = hz.toNat * 850 / 1000000 :=
    toNat_ticksIn hz (by decide)
  refine ⟨fun us _ => toNat_mul_toUInt64 hz us, hlow, toNat_ticksIn hz (by decide), ?_⟩
  have hsize : UInt32.size = 4294967296 := rfl
  have hcap : (0xffff : UInt32).toNat = 65535 := rfl
  rw [toNat_addSaturating (by omega), hlow, hcap]

/-- The upper bound that a rate gives. -/
def cappedHigh (hz : UInt32) : UInt32 :=
  let cap := addSaturating (ticksIn hz pulseMinUs) 0xffff
  if ticksIn hz pulseMaxUs > cap then cap else ticksIn hz pulseMaxUs

theorem forCounterHz_eq (hz : UInt32) :
    forCounterHz hz = between (ticksIn hz pulseMinUs) (cappedHigh hz) := rfl

theorem toNat_cappedHigh (hz : UInt32) :
    (cappedHigh hz).toNat =
      min (hz.toNat * 2150 / 1000000) (hz.toNat * 850 / 1000000 + 65535) := by
  obtain ⟨-, -, hhigh, hcap⟩ := lossless hz
  unfold cappedHigh
  dsimp only
  by_cases h : ticksIn hz pulseMaxUs > addSaturating (ticksIn hz pulseMinUs) 0xffff
  · have hlt := UInt32.lt_iff_toNat_lt.1 h
    rw [hhigh, hcap] at hlt
    rw [if_pos h, hcap]
    omega
  · have hle := UInt32.le_iff_toNat_le.1 (UInt32.not_lt.1 h)
    rw [hhigh, hcap] at hle
    rw [if_neg h, hhigh]
    omega

/-- The two bounds fall together just for the slowest counters. -/
theorem slow_iff (n : Nat) : n * 2150 / 1000000 ≤ n * 850 / 1000000 ↔ n ≤ 465 := by
  -- from 770 on the bounds are more than a tick apart before they are rounded down
  by_cases h : n < 770
  · have hlow : n * 850 / 1000000 = 0 := Nat.div_eq_of_lt (by omega)
    rw [hlow]
    omega
  · omega

theorem forCounterHz_eq_error_iff (hz : UInt32) :
    forCounterHz hz = .error .emptyWindow ↔ hz.toNat ≤ 465 := by
  rw [forCounterHz_eq, between_eq_error_iff, UInt32.le_iff_toNat_le, toNat_cappedHigh,
    (lossless hz).low, ← slow_iff]
  omega

/-- A window for a counter: its bounds are exact, and every time within it has a width of its own,
which is neither 0 nor 65535. -/
structure Exact (hz : UInt32) (w : Window) : Prop where
  low : w.low.toNat = hz.toNat * 850 / 1000000
  high : w.high.toNat = min (hz.toNat * 2150 / 1000000) (w.low.toNat + 65535)
  span : 1 ≤ w.high.toNat - w.low.toNat ∧ w.high.toNat - w.low.toNat ≤ 65535
  width_eq_zero_iff : ∀ d, w.width d = 0 ↔ d ≤ w.low
  width_eq_max_iff : ∀ d, w.width d = 65535 ↔ w.high ≤ d
  width_within : ∀ d, w.low < d → d < w.high → (w.width d).toNat = d.toNat - w.low.toNat
  width_mono : ∀ d d', d ≤ d' → w.width d ≤ w.width d'
  width_strict : ∀ d d', w.low ≤ d → d < d' → d' ≤ w.high → w.width d < w.width d'

theorem exact_of_bounds {hz : UInt32} (low : w.low.toNat = hz.toNat * 850 / 1000000)
    (high : w.high.toNat = min (hz.toNat * 2150 / 1000000) (w.low.toNat + 65535)) :
    Exact hz w := by
  have hlt := w.low_lt_high_toNat
  have hnarrow : w.Narrow := by
    unfold Narrow
    omega
  have hwidth := hnarrow.toNat_width
  refine ⟨low, high, by omega, fun d => ?_, fun d => ?_, fun d _ hd => ?_,
    fun d d' => hnarrow.width_le, fun d d' hd hdd hd' => ?_⟩
  · have hzero : (0 : UInt16).toNat = 0 := rfl
    rw [← UInt16.toNat_inj, hwidth, hzero, UInt32.le_iff_toNat_le]
    split <;> omega
  -- the last time within the window is at most 65534 ticks above the lower bound
  · have hmax : (65535 : UInt16).toNat = 65535 := rfl
    rw [← UInt16.toNat_inj, hwidth, hmax, UInt32.le_iff_toNat_le]
    split <;> omega
  · rw [hwidth, if_neg (Nat.not_le.2 (UInt32.lt_iff_toNat_lt.1 hd))]
  · rw [UInt32.le_iff_toNat_le] at hd hd'
    rw [UInt32.lt_iff_toNat_lt] at hdd
    rw [UInt16.lt_iff_toNat_lt, hwidth, hwidth, if_neg (by omega)]
    split <;> omega

/-- **The window for a counter is exact, at every rate.** There is none just for the rates up to
465 Hz, at which the two bounds fall together; every other rate has one. -/
theorem forCounterHz_exact (hz : UInt32) :
    (forCounterHz hz = .error .emptyWindow ↔ hz.toNat ≤ 465) ∧
    (hz.toNat ≤ 465 ↔ hz.toNat * 850 / 1000000 ≥ hz.toNat * 2150 / 1000000) ∧
    ((∃ w, forCounterHz hz = .ok w ∧ Exact hz w) ↔ 465 < hz.toNat) ∧
    Lossless hz := by
  refine ⟨forCounterHz_eq_error_iff hz, (slow_iff hz.toNat).symm, ⟨?_, fun hfast => ?_⟩,
    lossless hz⟩
  · rintro ⟨w, hw, -⟩
    rw [← Nat.not_le, ← forCounterHz_eq_error_iff, hw]
    exact nofun
  · have hlow : (ticksIn hz pulseMinUs).toNat = hz.toNat * 850 / 1000000 := (lossless hz).low
    have hhigh := toNat_cappedHigh hz
    have hlt : ticksIn hz pulseMinUs < cappedHigh hz := by
      have hslow := slow_iff hz.toNat
      rw [UInt32.lt_iff_toNat_lt, hlow, hhigh]
      omega
    refine ⟨⟨_, _, hlt⟩, between_eq_ok hlt, exact_of_bounds hlow ?_⟩
    rw [← hlow] at hhigh
    exact hhigh

end SensorBoard.Window
