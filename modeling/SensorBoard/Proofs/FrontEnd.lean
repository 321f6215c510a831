import SensorBoard.Firmware.Program

/-!
# The converter with its queue and its DMA channel

What the chip is documented to do with the commands that concern the analog converter. The simulated
machine moves every sample as it comes. Here a conversion takes time: one that had started when the
converter was paused still ends, and every conversion goes through a queue of four, from which the
DMA channel takes it if it may.

* `Front`: the converter, the queue, the channel's registers and the memory, with the conversions
  that ended and the samples that were stored kept as histories.
* `Front.convert`: one more conversion ends, if there can be one.
* `Front.apply`: what a command does.
* `Converting`: a world whose chip keeps to this. Any number of conversions may end before a command
  takes effect.
-/

namespace SensorBoard

/-- The inputs of the four channels, in the order of conversion. -/
def channelInputs : PerChannel AdcInput := ⟨0, 1, 2, 3⟩

structure Conversion where
  input : AdcInput
  sample : Int16
deriving DecidableEq

/-- A conversion that was moved to the memory. -/
structure Stored extends Conversion where
  address : UInt32
deriving DecidableEq

/-- The registers of the DMA channel that moves conversions. -/
structure Mover where
  readAddress : UInt32 := 0
  writeAddress : UInt32 := 0
  /-- The count that a start begins with. -/
  reload : UInt32 := 0
  remaining : UInt32 := 0
  /-- The base-two logarithm of the bytes that the write address wraps in; 0 if it does not. -/
  ringSize : Nat := 0
  active : Bool := false
  /-- An abort was asked for and has not come through. -/
  aborting : Bool := false

/-- The address of the half-word after one. An address that wraps stays in the naturally aligned
block of `2 ^ size` bytes that it is in. -/
def Mover.after (size : Nat) (address : UInt32) : UInt32 :=
  if size = 0 then address + 2
  else
    let block := 1 <<< size
    (address.toNat / block * block + (address.toNat + 2) % block).toUInt32

def Mover.advance (d : Mover) : Mover :=
  { d with writeAddress := Mover.after d.ringSize d.writeAddress, remaining := d.remaining - 1 }

/-- The channel takes a control word and starts. One that is active takes no start. -/
def Mover.start (d : Mover) (control : UInt32) : Mover :=
  if d.active then d
  else
    { d with
      remaining := d.reload
      ringSize := (control.toBitVec.extractLsb' 6 4).toNat
      active := control.toBitVec.getLsbD 0 }

/-- A control word for transfers of half-words from one address to rising ones that wrap, each at a
request of the converter, chained to no other channel. -/
def Mover.FillsRing (control : UInt32) : Prop :=
  let w := control.toBitVec
  w.extractLsb' 2 2 = 1 ∧ w.getLsbD 4 = false ∧ w.getLsbD 5 = true ∧ w.getLsbD 10 = true ∧
    w.extractLsb' 11 4 = 0 ∧ w.extractLsb' 15 6 = 36 ∧ w.getLsbD 22 = false

instance (control : UInt32) : Decidable (Mover.FillsRing control) :=
  inferInstanceAs (Decidable (_ ∧ _))

/-- The converter, its queue, the DMA channel, and the memory that the channel writes. -/
structure Front where
  /-- Conversions follow one another. -/
  running : Bool := false
  /-- A conversion from before a pause may still end. -/
  landing : Bool := false
  /-- The input of the conversion that ends next. -/
  selected : AdcInput := 0
  /-- The inputs that take turns; if there are none the selected one stays. -/
  rotation : List AdcInput := []
  /-- Conversions go to the queue. -/
  queued : Bool := false
  queue : List Conversion := []
  /-- The queue asks for transfers. -/
  requests : Bool := false
  dma : Mover := {}
  memory : UInt32 → Int16 := fun _ => 0
  ended : List Conversion := []
  /-- All conversions that were moved, in the order of their transfers. -/
  stored : List Stored := []

namespace Front

def reset : Front := {}

def queueDepth : Nat := 4

/-- Where the queue is read. -/
def queueAddress : UInt32 := 0x4004c00c

/-- The processor cycles of one conversion: 96 clocks of 48 MHz, at 125 MHz. -/
def conversionTime : UInt32 := 250

variable (f : Front)

/-! ## Moving conversions -/

def Moves : Prop :=
  f.dma.active = true ∧ f.requests = true ∧ f.dma.readAddress = queueAddress ∧ 0 < f.dma.remaining

instance : Decidable f.Moves := inferInstanceAs (Decidable (_ ∧ _))

def store (c : Conversion) : Front :=
  { f with
    memory := fun a => if a = f.dma.writeAddress then c.sample else f.memory a
    stored := f.stored ++ [⟨c, f.dma.writeAddress⟩]
    dma := f.dma.advance }

/-- The channel moves the conversions of a queue, as far as it may. -/
def storeAll : Front → List Conversion → Front
  | f, [] => { f with queue := [] }
  | f, c :: cs => if f.Moves then (f.store c).storeAll cs else { f with queue := c :: cs }

/-- The channel keeps up with the queue. -/
def pump : Front := f.storeAll f.queue

/-! ## Conversions -/

/-- The next input that takes its turn, in ascending order and from the top to the bottom. -/
def next : AdcInput :=
  ([f.selected + 1, f.selected + 2, f.selected + 3].find? fun i => decide (i ∈ f.rotation)).getD
    f.selected

def conversion (s : Int16) : Conversion := ⟨f.selected, s⟩

/-- The conversion under way ends and goes to the queue. One that finds the queue full is lost. -/
def finish (s : Int16) : Front :=
  { f with
    queue := f.queue ++ if f.queued ∧ f.queue.length < queueDepth then [f.conversion s] else []
    ended := f.ended ++ [f.conversion s]
    selected := f.next }

def land (s : Int16) : Front := (f.finish s).pump

/-- A conversion ends, if one is under way. -/
def convert (s : Int16) : Front :=
  if f.running then f.land s
  else if f.landing then { f with landing := false }.land s
  else f

def convertAll (ss : List Int16) : Front := ss.foldl convert f

/-! ## Commands -/

/-- No conversion starts from here on. -/
def pause : Front := { f with running := false, landing := f.running || f.landing }

/-- What a command changes at once. -/
def effect : Command → Front
  | .adcFirst i => { f with selected := i }
  | .adcRotation is => { f with rotation := is.toList }
  | .adcRequestDma => { f with requests := true }
  | .adcStartPaused => { f.pause with queued := true }
  | .adcPause => f.pause
  | .adcClear => { f with queue := [] }
  | .adcResume => { f with running := true }
  | .adcStop =>
    { f with
      running := false, landing := false, selected := 0, rotation := []
      queued := false, queue := [], requests := false }
  | .delayCycles n => { f with landing := f.landing && n < conversionTime }
  | .dmaAbort bits =>
    { f with dma := { f.dma with aborting := f.dma.aborting || bits.toBitVec.getLsbD 0 } }
  | .dmaReadAddress a => { f with dma := { f.dma with readAddress := a } }
  | .dmaWriteAddress a => { f with dma := { f.dma with writeAddress := a } }
  | .dmaCount n => { f with dma := { f.dma with reload := n } }
  | .dmaStart control => { f with dma := f.dma.start control }
  | _ => f

def apply (c : Command) : Front := (f.effect c).pump

/-- The commands that are described here: a channel is started to fill a ring from the converter. -/
def Describes : Command → Prop
  | .dmaStart control => Mover.FillsRing control
  | _ => True

/-- An abort that was asked for comes through. -/
def aborted : Front :=
  { f with dma := { f.dma with active := f.dma.active && !f.dma.aborting, aborting := false } }

/-! ## When nothing happens by itself -/

variable {f}

/-- No conversion runs, or may still end, or waits in the queue. -/
structure Resting (f : Front) : Prop where
  running : f.running = false
  landing : f.landing = false
  queue : f.queue = []

theorem pump_of_empty (h : f.queue = []) : f.pump = f := by
  rw [pump, h, storeAll, ← h]

theorem pump_of_not_moves (h : ¬f.Moves) : f.pump = f := by
  cases hq : f.queue with
  | nil => exact pump_of_empty hq
  | cons c cs => rw [pump, hq, storeAll, if_neg h, ← hq]

theorem storeAll_singleton (hm : f.Moves) (c : Conversion) :
    f.storeAll [c] = { f.store c with queue := [] } := by
  rw [storeAll, if_pos hm, storeAll]

/-- A conversion that ends while the channel moves what comes is moved. -/
theorem land_of_moves (hm : f.Moves) (hq : f.queue = []) (hf : f.queued = true) (s : Int16) :
    f.land s =
      { f.store (f.conversion s) with
        queue := [], ended := f.ended ++ [f.conversion s], selected := f.next } := by
  have hqueue : (f.finish s).queue = [f.conversion s] := by
    simp [finish, hq, hf, queueDepth]
  have hm' : (f.finish s).Moves := hm
  rw [land, pump, hqueue, storeAll_singleton hm']
  rfl

theorem land_of_not_moves (hm : ¬f.Moves) (s : Int16) : f.land s = f.finish s := by
  have hm' : ¬(f.finish s).Moves := hm
  exact pump_of_not_moves hm'

@[simp] theorem convertAll_nil : f.convertAll [] = f := rfl

@[simp] theorem convertAll_cons (s : Int16) (ss : List Int16) :
    f.convertAll (s :: ss) = (f.convert s).convertAll ss := rfl

/-- Nothing ends while nothing is under way. -/
theorem convertAll_of_still (hr : f.running = false) (hl : f.landing = false) (ss : List Int16) :
    f.convertAll ss = f := by
  induction ss with
  | nil => rfl
  | cons s ss ih => rw [convertAll_cons, convert, hr, hl]; exact ih

theorem running_storeAll (cs : List Conversion) : (f.storeAll cs).running = f.running := by
  induction cs generalizing f with
  | nil => rfl
  | cons c cs ih =>
    rw [storeAll]
    split
    · exact ih
    · rfl

theorem running_convertAll (ss : List Int16) : (f.convertAll ss).running = f.running := by
  induction ss generalizing f with
  | nil => rfl
  | cons s ss ih =>
    rw [convertAll_cons, ih, convert]
    split
    · exact running_storeAll _
    split
    · exact running_storeAll _
    · rfl

/-- A command that is not a resume leaves the converter at rest. -/
theorem Resting.effect (h : f.Resting) {c : Command} (hc : c ≠ .adcResume) :
    (f.effect c).Resting := by
  obtain ⟨hr, hl, hq⟩ := h
  cases c with
  | adcResume => exact absurd rfl hc
  | adcPause | adcStartPaused => exact ⟨rfl, by simp [Front.effect, pause, hr, hl], hq⟩
  | delayCycles n => exact ⟨hr, by simp [Front.effect, hl], hq⟩
  | adcClear => exact ⟨hr, hl, rfl⟩
  | adcStop => exact ⟨rfl, rfl, rfl⟩
  | _ => exact ⟨hr, hl, hq⟩

theorem Resting.aborted (h : f.Resting) : f.aborted.Resting := ⟨h.running, h.landing, h.queue⟩

theorem active_aborted {bits : UInt32} (h : bits.toBitVec.getLsbD 0 = true) :
    (f.effect (.dmaAbort bits)).aborted.dma.active = false := by
  simp [Front.aborted, Front.effect, h]

theorem Resting.apply (h : f.Resting) {c : Command} (hc : c ≠ .adcResume) :
    f.apply c = f.effect c :=
  pump_of_empty (h.effect hc).queue

end Front

/-- A world whose chip has a converter that does as it is documented. -/
class Converting (σ : Type) [Device σ] where
  front : σ → Front
  front_perform (c : Command) (hc : Front.Describes c) (w : σ) :
    ∃ ss, front ((perform c).runOn w).2 = ((front w).convertAll ss).apply c
  front_awaitAbort (w : σ) :
    ∃ ss, front (Device.awaitAbort.runOn w).2 = ((front w).convertAll ss).aborted
  front_remaining (w : σ) :
    ∃ ss, front (Device.dmaRemaining.runOn w).2 = (front w).convertAll ss ∧
      (Device.dmaRemaining.runOn w).1 = ((front w).convertAll ss).dma.remaining

export Converting (front)

/-! ## Commands while the converter is at rest -/

namespace Front.Resting

variable {σ : Type} [Device σ] [Converting σ] {w : σ}

theorem convertAll {f : Front} (h : f.Resting) (ss : List Int16) : f.convertAll ss = f :=
  convertAll_of_still h.running h.landing ss

theorem front_perform (h : (front w).Resting) {c : Command} (hc : c ≠ .adcResume)
    (hd : Describes c) : front ((perform c).runOn w).2 = (front w).effect c := by
  obtain ⟨ss, hs⟩ := Converting.front_perform c hd w
  rw [hs, h.convertAll, h.apply hc]

theorem front_awaitAbort (h : (front w).Resting) :
    front (Device.awaitAbort.runOn w).2 = (front w).aborted := by
  obtain ⟨ss, hs⟩ := Converting.front_awaitAbort w
  rw [hs, h.convertAll]

/-- **Commands to a converter at rest take effect one after the other**, and nothing else
happens. -/
theorem front_forM (h : (front w).Resting) {cs : List Command}
    (hcs : ∀ c ∈ cs, c ≠ .adcResume ∧ Describes c) :
    front ((cs.forM (perform (σ := σ))).runOn w).2 = cs.foldl Front.effect (front w) ∧
      (cs.foldl Front.effect (front w)).Resting := by
  induction cs generalizing w with
  | nil => exact ⟨rfl, h⟩
  | cons c cs ih =>
    obtain ⟨hc, hd⟩ := hcs c List.mem_cons_self
    have hw := h.front_perform hc hd
    have hrest : (front ((perform c).runOn w).2).Resting := by
      rw [hw]
      exact h.effect hc
    obtain ⟨hcs', hr⟩ := ih hrest fun c' hc' => hcs c' (List.mem_cons_of_mem _ hc')
    rw [hw] at hcs' hr
    exact ⟨hcs', hr⟩

end Front.Resting

end SensorBoard
