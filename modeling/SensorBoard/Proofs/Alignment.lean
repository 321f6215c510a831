import SensorBoard.Proofs.Filling

/-!
# Samples in step with the ring

The pipeline sees a sampler that stores a sample at the slot of its count and then counts it. The
board has a converter in rotation, a queue, and a channel that counts down. The two agree as long as
nothing from before a transfer is on its way when it is set up: a recovery can strike in the middle
of a round, with one conversion still to end.

* `Front.Armed.halted`: a halt waits for that conversion, which is stored as all the others.
* `AdcDma.Reached`: what runs of conversions and of the pipeline's calls lead to.
* `AdcDma.Invariant`: what holds in each stage of a recovery, and outside of one; there is one lemma
  for each call.
* `AdcDma.written_counts_stored`: **at all times the samples written are those stored since the
  transfer was set up, each in the slot of its number and from the input of its channel.**
-/

namespace SensorBoard

open Front

/-! ### Commands to a transfer -/

namespace Front.Armed

variable {σ : Type} [Device σ] [Converting σ] {w : σ} {base : UInt32} {m : Mark}

theorem front_perform (hb : base.toNat % 512 = 0) (h : Armed base m (front w)) {c : Command}
    (hc : Flow c) :
    ∃ ss, front ((perform c).runOn w).2 = ((front w).convertAll ss).effect c ∧
      Armed base m (front ((perform c).runOn w).2) := by
  have hd : Describes c := by cases hc <;> trivial
  obtain ⟨ss, hs⟩ := Converting.front_perform c hd w
  have harmed := (h.convertAll hb ss).effect hc
  have heq : ((front w).convertAll ss).apply c = ((front w).convertAll ss).effect c :=
    harmed.filling.pump
  exact ⟨ss, hs.trans heq, by rwa [hs, heq]⟩

/-- **A halt leaves the converter at rest.** One conversion may still end after the pause, but not
after the delay. -/
theorem halted (hb : base.toNat % 512 = 0) (h : Armed base m (front w)) :
    let w₁ := ((perform .adcPause).runOn w).2
    let w₂ := ((perform (.delayCycles conversionCycles)).runOn w₁).2
    let w₃ := ((perform .adcClear).runOn w₂).2
    Armed base m (front w₃) ∧ (front w₃).Resting := by
  intro w₁ w₂ w₃
  obtain ⟨ss₁, h₁, harmed₁⟩ := h.front_perform hb .pause
  obtain ⟨ss₂, h₂, harmed₂⟩ := harmed₁.front_perform hb (.delay conversionCycles)
  obtain ⟨ss₃, h₃, harmed₃⟩ := harmed₂.front_perform hb .clear
  have hrunning₁ : (front w₁).running = false := by rw [h₁]; rfl
  have hrunning : (front w₂).running = false := by
    rw [h₂]
    exact (running_convertAll ss₂).trans hrunning₁
  have hlanding : (front w₂).landing = false := by
    have hlong : decide (conversionCycles < conversionTime) = false := by decide
    rw [h₂, Front.effect, hlong, Bool.and_false]
  refine ⟨harmed₃, ?_⟩
  rw [h₃, convertAll_of_still hrunning hlanding]
  exact ⟨hrunning, hlanding, rfl⟩

end Front.Armed

/-- A transfer is set up with the converter at rest and the channel idle, whether or not the
converter has to be stopped before. -/
theorem Front.Resting.front_setUp {σ : Type} [Device σ] [Converting σ] {w : σ} (base : UInt32)
    (h : (front w).Resting) (hidle : (front w).dma.active = false) (stop : Bool) :
    let cs := (if stop then [.adcStop] else []) ++ setUp channelInputs (ringTransfer base)
    let w' := ((cs.forM (perform (σ := σ))).runOn w).2
    Armed base (front w).mark (front w') ∧ (front w').Resting ∧
      (front w').mark = (front w).mark := by
  intro cs w'
  have hcs : ∀ c ∈ cs, c ≠ .adcResume ∧ Describes c := by
    intro c hc
    rcases List.mem_append.1 hc with hc | hc
    · obtain rfl : c = .adcStop := by cases stop <;> simp_all
      exact ⟨nofun, trivial⟩
    · exact describes_setUp c hc
  obtain ⟨hw', hrest⟩ := h.front_forM hcs
  rw [hw']
  refine ⟨?_, hrest, mark_foldl_effect _ cs⟩
  cases stop with
  | false => exact armed_setUp h hidle
  | true =>
    have hstop : ((front w).effect .adcStop).Resting := h.effect nofun
    exact armed_setUp hstop hidle

namespace AdcDma

open Front (Mark Resting Armed InStep setUp ringTransfer)

variable {σ : Type} [Device σ]

/-! ## The calls -/

section Calls

variable {a : AdcDma} (w : σ)

theorem runOn_written (h : a.fifo = true) :
    written.runOn ⟨a, w⟩ =
      (0xffffffff - (Device.dmaRemaining.runOn w).1, ⟨a, (Device.dmaRemaining.runOn w).2⟩) := by
  obtain ⟨adc, fifo, inputs⟩ := a
  obtain rfl : fifo = true := h
  rfl

theorem runOn_halt (h : a.fifo = true) :
    let w₁ := ((perform .adcPause).runOn w).2
    let w₂ := ((perform (.delayCycles conversionCycles)).runOn w₁).2
    halt.runOn ⟨a, w⟩ = ((), ⟨a, ((perform .adcClear).runOn w₂).2⟩) := by
  obtain ⟨adc, fifo, inputs⟩ := a
  obtain rfl : fifo = true := h
  rfl

theorem runOn_resume (h : a.fifo = true) :
    resume.runOn ⟨a, w⟩ = ((), ⟨a, ((perform .adcResume).runOn w).2⟩) := by
  obtain ⟨adc, fifo, inputs⟩ := a
  obtain rfl : fifo = true := h
  rfl

theorem runOn_configure (t : Transfer) (h : a.adc = !a.fifo) :
    let w₁ := ((perform (.dmaAbort (1 <<< dmaChannel))).runOn w).2
    let w₂ := (Device.awaitAbort.runOn w₁).2
    let cs := (if a.fifo then [.adcStop] else []) ++ setUp a.inputs t
    (configure t).runOn ⟨a, w⟩ =
      ((), ⟨⟨false, true, a.inputs⟩, ((cs.forM (perform (σ := σ))).runOn w₂).2⟩) := by
  obtain ⟨adc, fifo, inputs⟩ := a
  obtain rfl : adc = !fifo := h
  cases fifo <;> rfl

end Calls

theorem analogInputs_analogPads (w : σ) :
    ((Firmware.analogInputs Firmware.analogPads).runOn w).1 = .ok channelInputs := rfl

/-- Where a run is in a recovery. -/
inductive Stage
  /-- Outside of one. -/
  | between
  | halted
  /-- Halted, with a new transfer. -/
  | configured
deriving DecidableEq

/-! ## What holds in every stage -/

variable [Converting σ]

/-- What holds in a stage, with the mark of the last transfer that was set up. -/
structure Invariant (base : UInt32) (stage : Stage) (mark : Option Mark) (h : Held AdcDma σ) :
    Prop where
  own : h.own = ⟨mark.isNone, mark.isSome, channelInputs⟩
  armed : ∀ m, mark = some m → Armed base m (front h.world)
  resting : mark = none ∨ stage ≠ .between → (front h.world).Resting
  fresh : stage = .configured → ∀ m, mark = some m → (front h.world).storedSince m = []

namespace Invariant

variable {base : UInt32} {stage : Stage} {mark : Option Mark} {a : AdcDma} {w w' : σ}

theorem conversions (hb : base.toNat % 512 = 0) (h : Invariant base stage mark ⟨a, w⟩)
    (ss : List Int16) (hw : front w' = (front w).convertAll ss) :
    Invariant base stage mark ⟨a, w'⟩ where
  own := h.own
  armed m hm := by
    show Armed base m (front w')
    rw [hw]
    exact (h.armed m hm).convertAll hb ss
  resting hr := by
    have := h.resting hr
    show (front w').Resting
    rwa [hw, this.convertAll]
  fresh hs m hm := by
    have := h.resting (.inr (hs ▸ nofun))
    show (front w').storedSince m = []
    rw [hw, this.convertAll]
    exact h.fresh hs m hm

/-- A read of the count lets conversions end and does nothing else. -/
theorem written (hb : base.toNat % 512 = 0) (h : Invariant base stage mark ⟨a, w⟩) :
    ∃ n w', AdcDma.written.runOn ⟨a, w⟩ = (n, ⟨a, w'⟩) ∧ Invariant base stage mark ⟨a, w'⟩ ∧
      (mark = none → n = 0) ∧ (mark.isSome → n = 0xffffffff - (front w').dma.remaining) := by
  obtain rfl : a = _ := h.own
  cases mark with
  | none => exact ⟨0, w, rfl, h, fun _ => rfl, nofun⟩
  | some m =>
    obtain ⟨ss, hw, hn⟩ := Converting.front_remaining w
    refine ⟨_, _, runOn_written w rfl, h.conversions hb ss hw, nofun, fun _ => ?_⟩
    rw [hw, hn]

theorem halt (hb : base.toNat % 512 = 0) (h : Invariant base .between mark ⟨a, w⟩) :
    Invariant base .halted mark (AdcDma.halt.runOn ⟨a, w⟩).2 := by
  obtain rfl : a = _ := h.own
  cases mark with
  | none => exact ⟨rfl, nofun, fun _ => h.resting (.inl rfl), nofun⟩
  | some m =>
    obtain ⟨harmed, hrest⟩ := (h.armed m rfl).halted hb
    rw [runOn_halt w rfl]
    exact ⟨rfl, by rintro _ ⟨⟩; exact harmed, fun _ => hrest, nofun⟩

theorem resume (hb : base.toNat % 512 = 0) (h : Invariant base .configured mark ⟨a, w⟩) :
    Invariant base .between mark (AdcDma.resume.runOn ⟨a, w⟩).2 := by
  obtain rfl : a = _ := h.own
  cases mark with
  | none => exact ⟨rfl, nofun, fun _ => h.resting (.inl rfl), nofun⟩
  | some m =>
    obtain ⟨-, -, harmed⟩ := (h.armed m rfl).front_perform hb .resume
    rw [runOn_resume w rfl]
    exact ⟨rfl, by rintro _ ⟨⟩; exact harmed, nofun, nofun⟩

theorem configure (h : Invariant base .halted mark ⟨a, w⟩) :
    Invariant base .configured (some (front w).mark)
      ((AdcDma.configure (ringTransfer base)).runOn ⟨a, w⟩).2 := by
  let w₁ := ((perform (.dmaAbort (1 <<< dmaChannel))).runOn w).2
  let w₂ := (Device.awaitAbort.runOn w₁).2
  have hrest : (front w).Resting := h.resting (.inr nofun)
  have h₁ : front w₁ = (front w).effect (.dmaAbort (1 <<< dmaChannel)) :=
    hrest.front_perform nofun trivial
  have hrest₁ : (front w₁).Resting := h₁ ▸ hrest.effect nofun
  have h₂ : front w₂ = (front w₁).aborted := hrest₁.front_awaitAbort
  have hrest₂ : (front w₂).Resting := h₂ ▸ hrest₁.aborted
  have hidle : (front w₂).dma.active = false := by
    rw [h₂, h₁]
    exact Front.active_aborted (by decide)
  have hmark : (front w₂).mark = (front w).mark := by rw [h₂, h₁]; rfl
  obtain ⟨harmed, hrest₃, hmark₃⟩ := hrest₂.front_setUp base hidle a.fifo
  rw [hmark] at harmed hmark₃
  have hadc : a.adc = !a.fifo := by
    obtain rfl : a = _ := h.own
    cases mark <;> rfl
  have hinputs : a.inputs = channelInputs := congrArg AdcDma.inputs h.own
  rw [runOn_configure w _ hadc, hinputs]
  constructor
  case own => rfl
  case armed =>
    rintro _ ⟨⟩
    exact harmed
  case resting => exact fun _ => hrest₃
  case fresh =>
    rintro - _ ⟨⟩
    exact hmark₃ ▸ Front.storedSince_mark _

end Invariant

/-! ## Runs -/

variable [Statics σ] [Logger σ]

/-- What the converter's driver comes to in runs of conversions and of the pipeline's calls, with
the stage and with the mark of the last call that set a transfer up. -/
inductive Reached (base : UInt32) : Stage → Option Mark → Held AdcDma σ → Prop
  | start (w₀ w₁ : σ) {inputs : PerChannel AdcInput} {w : σ}
    (pads : ((Firmware.analogInputs Firmware.analogPads).runOn w₀).1 = .ok inputs)
    (rest : (front w).Resting) : Reached base .between none ⟨((start inputs).runOn w₁).1, w⟩
  | conversions {stage : Stage} {mark : Option Mark} {a : AdcDma} {w w' : σ} (ss : List Int16)
    (reached : Reached base stage mark ⟨a, w⟩) (ended : front w' = (front w).convertAll ss) :
    Reached base stage mark ⟨a, w'⟩
  | written {stage : Stage} {mark : Option Mark} {h : Held AdcDma σ}
    (reached : Reached base stage mark h) : Reached base stage mark (Sampler.written.runOn h).2
  | halt {mark : Option Mark} {h : Held AdcDma σ} (reached : Reached base .between mark h) :
    Reached base .halted mark (Sampler.halt.runOn h).2
  | configure {mark : Option Mark} {h : Held AdcDma σ} (reached : Reached base .halted mark h) :
    Reached base .configured (some (front h.world).mark)
      ((Sampler.configure (ringTransfer base)).runOn h).2
  | resume {mark : Option Mark} {h : Held AdcDma σ} (reached : Reached base .configured mark h) :
    Reached base .between mark (Sampler.resume.runOn h).2

theorem Reached.invariant {base : UInt32} (hb : base.toNat % 512 = 0) {stage : Stage}
    {mark : Option Mark} {h : Held AdcDma σ} (hr : Reached base stage mark h) :
    Invariant base stage mark h := by
  induction hr with
  | @start w₀ w₁ inputs w pads rest =>
    obtain rfl : channelInputs = inputs :=
      Except.ok.inj ((analogInputs_analogPads w₀).symm.trans pads)
    exact ⟨rfl, nofun, fun _ => rest, nofun⟩
  | conversions ss _ ended ih => exact ih.conversions hb ss ended
  | @written _ _ h _ ih =>
    obtain ⟨n, w', hw, hi, -, -⟩ := ih.written hb
    have hworld : (Sampler.written.runOn h).2 = ⟨h.own, w'⟩ := congrArg Prod.snd hw
    rwa [hworld]
  | halt _ ih => exact ih.halt hb
  | configure _ ih => exact ih.configure
  | resume _ ih => exact ih.resume hb

/-- **The samples written are those stored since the transfer was set up.** In a run of conversions
and calls, of any length, the count can be read, is 0 before the first transfer and right after each
one was set up, and is in step with the ring ever after. -/
theorem written_counts_stored {base : UInt32} (hb : base.toNat % 512 = 0) {stage : Stage}
    {mark : Option Mark} {h : Held AdcDma σ} (hr : Reached base stage mark h) :
    ∃ n w, Sampler.written.runOn h = (.ok n, ⟨h.own, w⟩) ∧
      (mark = none ∨ stage = .configured → n = 0) ∧
      ∀ m, mark = some m → InStep base m h.own.inputs n (front w) := by
  obtain ⟨n, w, hw, hi, hnone, hsome⟩ := (hr.invariant hb).written hb
  have hrun : Sampler.written.runOn h = (.ok n, ⟨h.own, w⟩) :=
    congrArg (fun r => (Except.ok r.1, r.2)) hw
  have hinputs : h.own.inputs = channelInputs := congrArg AdcDma.inputs hi.own
  have hstep : ∀ m, mark = some m → InStep base m h.own.inputs n (front w) := by
    rintro m rfl
    rw [hsome rfl, hinputs]
    exact (hi.armed m rfl).inStep
  refine ⟨n, w, hrun, ?_, hstep⟩
  rintro (hmark | rfl)
  · exact hnone hmark
  · cases mark with
    | none => exact hnone rfl
    | some m =>
      have hcount := (hstep m rfl).count
      rw [hi.fresh rfl m rfl] at hcount
      exact UInt32.toNat_inj.1 hcount

end AdcDma

/-! ## A world with a converter -/

/-- A front end with the samples whose conversions end before each of the next operations. -/
structure Schedule where
  front : Front := .reset
  coming : List (List Int16) := []

namespace Schedule

def ringBase : UInt32 := 0x20000000

/-- An operation, after the conversions that are due. -/
def step (s : Schedule) (effect : Front → Front) : Schedule where
  front := effect (s.front.convertAll (s.coming.headD []))
  coming := s.coming.tail

instance : Device Schedule where
  perform c := modify (·.step (·.apply c))
  takePeripherals := return true
  clocksRun := return true
  pinHigh _ := return false
  pinLevels := return 0
  timer := return 0
  slice := return 0
  dmaRemaining := modifyGet fun s => ((s.step id).front.dma.remaining, s.step id)
  awaitAbort := modify (·.step Front.aborted)

instance : Converting Schedule where
  front := front
  front_perform _ _ s := ⟨s.coming.headD [], rfl⟩
  front_awaitAbort s := ⟨s.coming.headD [], rfl⟩
  front_remaining s := ⟨s.coming.headD [], rfl, rfl⟩

instance : Statics Schedule where
  requested := return 0
  takeRing := return some ringBase
  ringSample i := return ((← get).front.ringAt ringBase).read i
  edgeSource := return none
  installEdgeSource _ := return ()

instance : Logger Schedule where
  log _ := return ()

/-- The rest of a recovery, once the sampler is halted. -/
def recovered (h : Held AdcDma Schedule) : Held AdcDma Schedule :=
  (Sampler.resume.runOn ((Sampler.configure (Front.ringTransfer ringBase)).runOn h).2).2

/-- After the first recovery the count is read at three samples, a fourth comes before the next
pause, and a fifth after it. -/
def halted : Held AdcDma Schedule :=
  let coming := .replicate 12 [] ++ [[10, 11, 12], [13], [14, 15]] ++ .replicate 14 [] ++ [[20, 21]]
  let h := recovered (Sampler.halt.runOn ⟨⟨true, false, channelInputs⟩, { coming }⟩).2
  (Sampler.halt.runOn (Sampler.written.runOn h).2).2

/-- The count is 2 after the second recovery, although five samples came before, the last of them
after the pause. -/
theorem written_counts_stored_twice :
    ringBase.toNat % 512 = 0 ∧
      AdcDma.Reached ringBase .between (some ⟨5, 5⟩) (recovered halted) ∧
      ∃ w, Sampler.written.runOn (recovered halted) = (.ok 2, ⟨(recovered halted).own, w⟩) ∧
        InStep ringBase ⟨5, 5⟩ (recovered halted).own.inputs 2 (Converting.front w) := by
  have hb : ringBase.toNat % 512 = 0 := by decide
  have hhalted : ∃ m, AdcDma.Reached ringBase .halted (some m) halted :=
    ⟨_, .halt (.written (.resume (.configure (.halt (.start {} {} rfl ⟨rfl, rfl, rfl⟩)))))⟩
  obtain ⟨_, hhalted⟩ := hhalted
  have hmark : (Converting.front halted.world).mark = ⟨5, 5⟩ := by decide
  have hr : AdcDma.Reached ringBase .between (some ⟨5, 5⟩) (recovered halted) :=
    hmark ▸ hhalted.configure.resume
  have htwo : (Sampler.written.runOn (recovered halted)).1.toOption = some 2 := by decide
  obtain ⟨n, w, hw, -, hstep⟩ := AdcDma.written_counts_stored hb hr
  rw [hw] at htwo
  obtain rfl : n = 2 := Option.some.inj htwo
  exact ⟨hb, hr, w, hw, hstep _ rfl⟩

end Schedule

end SensorBoard
