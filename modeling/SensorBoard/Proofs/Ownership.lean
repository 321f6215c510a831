import SensorBoard.Proofs.Alignment

/-!
# Who has the converter

The converter is lent back and forth: at hand until the first transfer, then with the queue that
feeds it, and taken out of the queue again each time a transfer is set up. A path on which it got
lost would leave every later set-up without effect, and nothing would say so. The pipeline makes
its calls in one order; here they come in any.

* `dmaControl_mod`, `Mover.fillsRing_dmaControl`: the control word of a transfer of any length.
* `Front.Ready`: what a set-up leaves of the converter and of the channel.
* `AdcDma.front_configure`: **a set-up ends the old transfer and starts the new one**, whether or
  not conversions go on meanwhile.
* `AdcDma.Use`, `AdcDma.Used`: the calls in any order, with conversions in between.
* `AdcDma.owned`: **the converter is in one of two hands in every state**, so that no set-up is
  without effect.
-/

namespace SensorBoard

/-! ## The control word -/

/-- The ring size has four bits in the control word. -/
theorem dmaControl_mod (size : Nat) : dmaControl size = dmaControl (size % 16) := by
  have hbits : size.toUInt32 &&& 0xf = (size % 16).toUInt32 &&& 0xf := by
    rw [← UInt32.toNat_inj, UInt32.toNat_and, UInt32.toNat_and, Nat.toUInt32_eq, Nat.toUInt32_eq,
      UInt32.toNat_ofNat', UInt32.toNat_ofNat']
    change _ &&& (2 ^ 4 - 1) = _ &&& (2 ^ 4 - 1)
    rw [Nat.and_two_pow_sub_one_eq_mod, Nat.and_two_pow_sub_one_eq_mod]
    omega
  rw [dmaControl, dmaControl, hbits]

namespace Mover

/-- The control words of all sizes that there are. -/
theorem dmaControl_sizes (i : Fin 16) :
    FillsRing (dmaControl i) ∧ ((dmaControl i).toBitVec.extractLsb' 6 4).toNat = i ∧
      (dmaControl i).toBitVec.getLsbD 0 = true := by
  revert i
  decide

theorem fillsRing_dmaControl (size : Nat) : FillsRing (dmaControl size) := by
  rw [dmaControl_mod]
  exact (dmaControl_sizes ⟨size % 16, Nat.mod_lt _ (by decide)⟩).1

/-- A channel that is idle starts with its full count, and wraps as the ring size says. -/
theorem start_dmaControl {d : Mover} (h : d.active = false) (size : Nat) :
    d.start (dmaControl size) =
      { d with remaining := d.reload, ringSize := size % 16, active := true } := by
  obtain ⟨-, hsize, hactive⟩ := dmaControl_sizes ⟨size % 16, Nat.mod_lt _ (by decide)⟩
  rw [dmaControl_mod, start, h, if_neg Bool.false_ne_true, hsize, hactive]

end Mover

/-- A ring of half-words takes twice its length in bytes, and the field holds the logarithm of that
for every length up to `2 ^ 14`. -/
theorem trailingZeros_twice {n : Nat} (hpow : n.isPowerOfTwo) (hle : n ≤ 16384) :
    trailingZeros (n * 2).toUInt32 % 16 = (2 * n).log2 := by
  have key : ∀ i : Fin 15,
      trailingZeros ((1 <<< i.val) * 2).toUInt32 % 16 = (2 * (1 <<< i.val)).log2 := by
    decide
  obtain ⟨k, rfl⟩ := hpow
  have hk : k < 15 := by
    apply Decidable.byContradiction
    intro hnot
    have hbig := Nat.pow_le_pow_right (n := 2) (by decide) (Nat.le_of_not_lt hnot)
    omega
  rw [← Nat.one_shiftLeft]
  exact key ⟨k, hk⟩

namespace Front

variable {f : Front} {inputs : PerChannel AdcInput} {t : Transfer}

/-! ## What a set-up leaves -/

/-- The converter is paused with an empty queue, at the first of its inputs, and the channel has
just been started. -/
structure Ready (inputs : PerChannel AdcInput) (t : Transfer) (f : Front) : Prop where
  rest : f.Resting
  queued : f.queued = true
  requests : f.requests = true
  selected : f.selected = inputs.pitot
  rotation : f.rotation = inputs.toList
  active : f.dma.active = true
  readAddress : f.dma.readAddress = queueAddress
  writeAddress : f.dma.writeAddress = t.base
  remaining : f.dma.remaining = 0xffffffff
  ringSize : f.dma.ringSize = trailingZeros (t.length * 2).toUInt32 % 16

/-- The write address wraps in the bytes of the ring, if their number is a power of two that the
channel can wrap in. -/
theorem Ready.ringSize_eq_log2 (h : Ready inputs t f) (hpow : t.length.isPowerOfTwo)
    (hle : t.length ≤ 16384) : f.dma.ringSize = (2 * t.length).log2 :=
  h.ringSize.trans (trailingZeros_twice hpow hle)

theorem ready_setUp (hf : f.Resting) (hidle : f.dma.active = false) :
    Ready inputs t ((setUp inputs t).foldl effect f) := by
  let d : Mover :=
    { f.dma with readAddress := queueAddress, writeAddress := t.base, reload := 0xffffffff }
  have hd : d.active = false := hidle
  let g (d : Mover) : Front :=
    { f with
      running := false, landing := f.running || f.landing
      selected := inputs.pitot, rotation := inputs.toList
      queued := true, requests := true, dma := d }
  have hset : (setUp inputs t).foldl effect f =
      g (d.start (dmaControl (trailingZeros (t.length * 2).toUInt32))) := rfl
  have hlanding : (f.running || f.landing) = false := by rw [hf.running, hf.landing]; rfl
  rw [hset, Mover.start_dmaControl hd]
  exact ⟨⟨rfl, hlanding, hf.queue⟩, rfl, rfl, rfl, rfl, rfl, rfl, rfl, rfl, rfl⟩

theorem describes_transfer : ∀ c ∈ setUp inputs t, c ≠ .adcResume ∧ Describes c := by
  intro c hc
  have hfills := Mover.fillsRing_dmaControl (trailingZeros (t.length * 2).toUInt32)
  simp only [setUp, List.mem_cons, List.not_mem_nil, or_false] at hc
  constructor
  · rintro rfl
    simp at hc
  · rcases hc with rfl | rfl | rfl | rfl | rfl | rfl | rfl | rfl | rfl
    iterate 8 trivial
    exact hfills

/-! ## What conversions leave alone -/

section

variable {α : Type} {g : Mover → α} (hg : ∀ d : Mover, g d.advance = g d)

include hg

theorem dma_storeAll (cs : List Conversion) : g (f.storeAll cs).dma = g f.dma := by
  induction cs generalizing f with
  | nil => rfl
  | cons c cs ih =>
    rw [storeAll]
    split
    · exact ih.trans (hg f.dma)
    · rfl

/-- What moving a sample does not change of the channel, conversions do not change. -/
theorem dma_convertAll (ss : List Int16) : g (f.convertAll ss).dma = g f.dma := by
  induction ss generalizing f with
  | nil => rfl
  | cons s ss ih =>
    rw [convertAll_cons, ih, convert]
    split
    · exact dma_storeAll hg _
    split
    · exact dma_storeAll hg _
    · rfl

end

/-- A stop ends all conversions at once. -/
theorem resting_stop (f : Front) : (f.apply .adcStop).Resting := by
  have hstop : f.apply .adcStop = f.effect .adcStop := pump_of_empty rfl
  rw [hstop]
  exact ⟨rfl, rfl, rfl⟩

end Front

namespace AdcDma

open Front (Resting Ready setUp)

variable {σ : Type} [Device σ] [Converting σ] {a : AdcDma} {w : σ}

/-! ## Setting up a transfer, whatever came before -/

/-- **An abort leaves the channel idle**, even if conversions go on. -/
theorem idle_awaitAbort (w : σ) :
    (front (Device.awaitAbort.runOn
      ((perform (.dmaAbort (1 <<< dmaChannel))).runOn w).2).2).dma.active = false := by
  let w₁ := ((perform (.dmaAbort (1 <<< dmaChannel))).runOn w).2
  obtain ⟨ss₁, h₁⟩ := Converting.front_perform (.dmaAbort (1 <<< dmaChannel)) trivial w
  obtain ⟨ss₂, h₂⟩ := Converting.front_awaitAbort w₁
  have haborting₁ : (front w₁).dma.aborting = true := by
    have hbit : (1 <<< dmaChannel).toBitVec.getLsbD 0 = true := by decide
    have hpump := Front.dma_storeAll (g := Mover.aborting) (fun _ => rfl)
      (f := ((front w).convertAll ss₁).effect (.dmaAbort (1 <<< dmaChannel)))
      ((front w).convertAll ss₁).queue
    rw [h₁]
    refine hpump.trans ?_
    show (_ || (1 <<< dmaChannel).toBitVec.getLsbD 0) = true
    rw [hbit, Bool.or_true]
  have haborting₂ := Front.dma_convertAll (g := Mover.aborting) (fun _ => rfl) (f := front w₁) ss₂
  rw [h₂]
  show (_ && !((front w₁).convertAll ss₂).dma.aborting) = false
  rw [haborting₂, haborting₁, Bool.not_true, Bool.and_false]

/-- **A set-up ends the transfer in progress and starts the new one** on a converter at rest, with
the rotation at its first input. A converter at hand was at rest before; one that feeds a transfer
may be converting until it is stopped. -/
theorem front_configure (t : Transfer) (hadc : a.adc = !a.fifo)
    (hrest : a.fifo = false → (front w).Resting) :
    Ready a.inputs t (front ((configure t).runOn ⟨a, w⟩).2.world) := by
  let w₁ := ((perform (.dmaAbort (1 <<< dmaChannel))).runOn w).2
  let w₂ := (Device.awaitAbort.runOn w₁).2
  have hidle : (front w₂).dma.active = false := idle_awaitAbort w
  rw [runOn_configure w t hadc]
  cases hfifo : a.fifo with
  | false =>
    have h₁ : front w₁ = (front w).effect (.dmaAbort (1 <<< dmaChannel)) :=
      (hrest hfifo).front_perform nofun trivial
    have hrest₁ : (front w₁).Resting := h₁ ▸ (hrest hfifo).effect nofun
    have hrest₂ : (front w₂).Resting := hrest₁.front_awaitAbort ▸ hrest₁.aborted
    have hset := (hrest₂.front_forM (@Front.describes_transfer a.inputs t)).1
    exact hset ▸ Front.ready_setUp hrest₂ hidle
  | true =>
    let w₃ := ((perform .adcStop).runOn w₂).2
    obtain ⟨ss, h₃⟩ := Converting.front_perform .adcStop trivial w₂
    have hrest₃ : (front w₃).Resting := h₃ ▸ Front.resting_stop _
    have hidle₃ : (front w₃).dma.active = false := by
      have hconv := Front.dma_convertAll (g := Mover.active) (fun _ => rfl) (f := front w₂) ss
      rw [h₃]
      exact hconv.trans hidle
    have hset := (hrest₃.front_forM (@Front.describes_transfer a.inputs t)).1
    exact hset ▸ Front.ready_setUp hrest₃ hidle₃

/-- Right after a set-up nothing has been written. -/
theorem written_configure (t : Transfer) (hadc : a.adc = !a.fifo)
    (hrest : a.fifo = false → (front w).Resting) :
    (written.runOn ((configure t).runOn ⟨a, w⟩).2).1 = 0 := by
  have hready := front_configure t hadc hrest
  have hown : ((configure t).runOn ⟨a, w⟩).2.own.fifo = true := by rw [runOn_configure w t hadc]
  generalize ((configure t).runOn ⟨a, w⟩).2 = h at *
  obtain ⟨ss, -, hn⟩ := Converting.front_remaining h.world
  rw [runOn_written h.world hown, hn, hready.rest.convertAll, hready.remaining]
  rfl

/-! ## Calls in any order -/

omit [Converting σ] in
/-- A converter at hand has no queue to stop, to let go on, or to count for. -/
theorem runOn_atHand (w : σ) (h : a.fifo = false) :
    halt.runOn ⟨a, w⟩ = ((), ⟨a, w⟩) ∧ resume.runOn ⟨a, w⟩ = ((), ⟨a, w⟩) ∧
      written.runOn ⟨a, w⟩ = (0, ⟨a, w⟩) := by
  obtain ⟨adc, fifo, inputs⟩ := a
  obtain rfl : fifo = false := h
  exact ⟨rfl, rfl, rfl⟩

/-- A call of the driver. -/
inductive Use
  | written
  | halt
  | resume
  | configure (t : Transfer)

/-- The driver and the world after a call. -/
def Use.after (h : Held AdcDma σ) : Use → Held AdcDma σ
  | .written => (AdcDma.written.runOn h).2
  | .halt => (AdcDma.halt.runOn h).2
  | .resume => (AdcDma.resume.runOn h).2
  | .configure t => ((AdcDma.configure t).runOn h).2

omit [Converting σ] in
/-- **Only a set-up moves the converter.** -/
theorem Use.own_after (h : Held AdcDma σ) {u : Use} (hu : ∀ t, u ≠ .configure t) :
    (u.after h).own = h.own := by
  obtain ⟨⟨adc, fifo, inputs⟩, w⟩ := h
  cases u with
  | written | halt | resume => cases fifo <;> rfl
  | configure t => exact absurd rfl (hu t)

omit [Converting σ] in
theorem Use.after_atHand {h : Held AdcDma σ} (hfifo : h.own.fifo = false) {u : Use}
    (hu : ∀ t, u ≠ .configure t) : u.after h = h := by
  obtain ⟨hhalt, hresume, hwritten⟩ := runOn_atHand h.world hfifo
  cases u with
  | written => exact congrArg Prod.snd hwritten
  | halt => exact congrArg Prod.snd hhalt
  | resume => exact congrArg Prod.snd hresume
  | configure t => exact absurd rfl (hu t)

/-- What the driver comes to by a list of calls, in any order, with conversions in between. It takes
over a converter that is at rest. -/
inductive Used [Logger σ] (inputs : PerChannel AdcInput) : List Use → Held AdcDma σ → Prop
  | start (w₀ : σ) {w : σ} (rest : (front w).Resting) :
    Used inputs [] ⟨((start inputs).runOn w₀).1, w⟩
  | conversions {us : List Use} {a : AdcDma} {w w' : σ} (ss : List Int16)
    (used : Used inputs us ⟨a, w⟩) (ended : front w' = (front w).convertAll ss) :
    Used inputs us ⟨a, w'⟩
  | use {us : List Use} {h : Held AdcDma σ} (u : Use) (used : Used inputs us h) :
    Used inputs (us ++ [u]) (u.after h)

/-- Where the converter is after a list of calls. -/
structure Placed (inputs : PerChannel AdcInput) (us : List Use) (h : Held AdcDma σ) : Prop where
  own : h.own = ⟨!h.own.fifo, h.own.fifo, inputs⟩
  fifo : h.own.fifo = true ↔ ∃ t, Use.configure t ∈ us
  /-- It converts nothing while it is at hand. -/
  rest : h.own.fifo = false → (front h.world).Resting

namespace Placed

variable {inputs : PerChannel AdcInput} {us : List Use} {h : Held AdcDma σ}

theorem adc (p : Placed inputs us h) : h.own.adc = !h.own.fifo := congrArg AdcDma.adc p.own

theorem inputs_eq (p : Placed inputs us h) : h.own.inputs = inputs := congrArg AdcDma.inputs p.own

theorem runOn_configure (p : Placed inputs us h) (t : Transfer) :
    let w₁ := ((perform (.dmaAbort (1 <<< dmaChannel))).runOn h.world).2
    let w₂ := (Device.awaitAbort.runOn w₁).2
    let cs := (if h.own.fifo then [.adcStop] else []) ++ setUp inputs t
    (AdcDma.configure t).runOn h =
      ((), ⟨⟨false, true, inputs⟩, ((cs.forM (perform (σ := σ))).runOn w₂).2⟩) := by
  have hrun := AdcDma.runOn_configure h.world t p.adc
  rwa [p.inputs_eq] at hrun

theorem after (p : Placed inputs us h) (u : Use) : Placed inputs (us ++ [u]) (u.after h) := by
  by_cases hu : ∃ t, u = .configure t
  · obtain ⟨t, rfl⟩ := hu
    have hown : (Use.after h (.configure t)).own = ⟨false, true, inputs⟩ :=
      congrArg (fun r => r.2.own) (p.runOn_configure t)
    exact ⟨by rw [hown]; rfl, by simp [hown], by simp [hown]⟩
  · have hne : ∀ t, u ≠ .configure t := fun t ht => hu ⟨t, ht⟩
    have hown := Use.own_after h hne
    constructor
    case own => rw [hown]; exact p.own
    case fifo =>
      rw [hown, p.fifo]
      simp [Ne.symm (hne _)]
    case rest =>
      intro hfifo
      rw [hown] at hfifo
      rw [Use.after_atHand hfifo hne]
      exact p.rest hfifo

end Placed

/-- **The converter is never lost**, whatever is called and in which order. -/
theorem Used.placed [Logger σ] {inputs : PerChannel AdcInput} {us : List Use} {h : Held AdcDma σ}
    (hused : Used inputs us h) : Placed inputs us h := by
  induction hused with
  | start w₀ rest => exact ⟨rfl, ⟨nofun, nofun⟩, fun _ => rest⟩
  | conversions ss _ ended ih =>
    refine ⟨ih.own, ih.fifo, fun hfifo => ?_⟩
    have hrest := ih.rest hfifo
    show (front _).Resting
    rwa [ended, hrest.convertAll]
  | use u _ ih => exact ih.after u

/-- What can be said of the converter after a list of calls, and of the next call. -/
structure Owned (inputs : PerChannel AdcInput) (us : List Use) (h : Held AdcDma σ) : Prop where
  /-- It is in just one of the two hands. -/
  exclusive : h.own.adc = !h.own.fifo
  fifo : h.own.fifo = true ↔ ∃ t, Use.configure t ∈ us
  /-- Before the first set-up the chip is left alone. -/
  untouched (hus : ∀ t, Use.configure t ∉ us) :
    AdcDma.halt.runOn h = ((), h) ∧ AdcDma.resume.runOn h = ((), h) ∧
      AdcDma.written.runOn h = (0, h)
  halt : (AdcDma.halt.runOn h).2.own = h.own
  resume : (AdcDma.resume.runOn h).2.own = h.own
  written : (AdcDma.written.runOn h).2.own = h.own
  /-- A set-up aborts first, waits for the end of it, and then goes all the way. -/
  configure (t : Transfer) :
    let w₁ := ((perform (.dmaAbort (1 <<< dmaChannel))).runOn h.world).2
    let w₂ := (Device.awaitAbort.runOn w₁).2
    let cs := (if h.own.fifo then [.adcStop] else []) ++ setUp inputs t
    (front w₂).dma.active = false ∧
      (AdcDma.configure t).runOn h =
        ((), ⟨⟨false, true, inputs⟩, ((cs.forM (perform (σ := σ))).runOn w₂).2⟩)
  ready (t : Transfer) : Ready inputs t (front ((AdcDma.configure t).runOn h).2.world)
  ringSize (t : Transfer) (hpow : t.length.isPowerOfTwo) (hle : t.length ≤ 16384) :
    (front ((AdcDma.configure t).runOn h).2.world).dma.ringSize = (2 * t.length).log2
  zero (t : Transfer) : (AdcDma.written.runOn ((AdcDma.configure t).runOn h).2).1 = 0

/-- **The converter is in one of two hands in every state**: at hand until the first set-up, feeding
a transfer ever after. So every set-up, whatever came before, ends the old transfer and starts the
new one from its first slot and its first channel. -/
theorem owned [Logger σ] {inputs : PerChannel AdcInput} {us : List Use} {h : Held AdcDma σ}
    (hused : Used inputs us h) : Owned inputs us h := by
  have hplaced := hused.placed
  have hready (t : Transfer) : Ready inputs t (front ((AdcDma.configure t).runOn h).2.world) := by
    have hr := front_configure t hplaced.adc hplaced.rest
    rwa [hplaced.inputs_eq] at hr
  constructor
  case exclusive => exact hplaced.adc
  case fifo => exact hplaced.fifo
  case untouched =>
    intro hus
    have hfifo : h.own.fifo = false := by
      rw [Bool.eq_false_iff, ne_eq, hplaced.fifo]
      rintro ⟨t, ht⟩
      exact hus t ht
    exact runOn_atHand h.world hfifo
  case halt => exact Use.own_after h (u := .halt) nofun
  case resume => exact Use.own_after h (u := .resume) nofun
  case written => exact Use.own_after h (u := .written) nofun
  case configure => exact fun t => ⟨idle_awaitAbort h.world, hplaced.runOn_configure t⟩
  case ready => exact hready
  case ringSize => exact fun t hpow hle => (hready t).ringSize_eq_log2 hpow hle
  case zero => exact fun t => written_configure t hplaced.adc hplaced.rest

end AdcDma

namespace Schedule

/-- A driver that is halted and let go on before it has a transfer, set up, and set up once more
while conversions go on. -/
theorem owned_while_running :
    let t : Transfer := ⟨ringBase, 256, 0xf⟩
    let us : List AdcDma.Use := [.halt, .resume, .configure t, .resume, .configure t]
    let start : Held AdcDma Schedule :=
      ⟨⟨true, false, channelInputs⟩, { coming := .replicate 11 [] ++ List.replicate 20 [1, 2, 3] }⟩
    let h := us.foldl AdcDma.Use.after start
    AdcDma.Used channelInputs us h ∧ AdcDma.Owned channelInputs us h ∧ h.own.fifo = true ∧
      (Converting.front h.world).ended ≠ [] := by
  intro t us start h
  have hused : AdcDma.Used channelInputs us h :=
    .use _ (.use _ (.use _ (.use _ (.use _ (.start {} ⟨rfl, rfl, rfl⟩)))))
  have howned := AdcDma.owned hused
  exact ⟨hused, howned, howned.fifo.2 ⟨t, by simp [us]⟩, by decide⟩

end Schedule

end SensorBoard
