import SensorBoard.Proofs.Feed
import SensorBoard.Proofs.FrontEnd

/-!
# A transfer that fills the ring

What holds of the converter and of the DMA channel since the commands that set a transfer up.
Rotation, write address and count start together and each conversion moves all three on, so none of
them says anything of the others but that they stay in step. When the count has run out the rotation
goes on alone.

* `Front.Mark`: where the histories were when the transfer was set up.
* `Turning`, `Filling`: the converter's side and the channel's side; `Armed` is both.
* `Armed.convertAll`: **conversions keep both**, one that is stored (`Filling.store`) and one that
  is not (`Filling.skip`).
* `armed_setUp`: both hold when a transfer has been set up.
* `InStep`: what a reader relies on, down to the feed that it sees; `Armed.inStep` gives it.
-/

namespace SensorBoard

/-! ## Addresses of slots -/

/-- The address of the slot of a count. -/
def slotAddress (base : UInt32) (k : Nat) : UInt32 := base + (2 * (k % ringCapacity)).toUInt32

section Addresses

variable {base : UInt32}

theorem toNat_slotAddress (hb : base.toNat % 512 = 0) (k : Nat) :
    (slotAddress base k).toNat = base.toNat + 2 * (k % 256) := by
  have hlt := base.toNat_lt
  rw [slotAddress, show ringCapacity = 256 from rfl, UInt32.toNat_add, Nat.toUInt32_eq,
    UInt32.toNat_ofNat']
  omega

theorem slotAddress_inj (hb : base.toNat % 512 = 0) {j k : Nat} :
    slotAddress base j = slotAddress base k ↔ j % 256 = k % 256 := by
  rw [← UInt32.toNat_inj, toNat_slotAddress hb, toNat_slotAddress hb]
  omega

/-- A write address that wraps within the ring's bytes goes from slot to slot. -/
theorem after_slotAddress (hb : base.toNat % 512 = 0) (k : Nat) :
    Mover.after 9 (slotAddress base k) = slotAddress base (k + 1) := by
  have hlt := base.toNat_lt
  have hafter (a : UInt32) :
      Mover.after 9 a = (a.toNat / 512 * 512 + (a.toNat + 2) % 512).toUInt32 := rfl
  rw [← UInt32.toNat_inj, toNat_slotAddress hb, hafter, toNat_slotAddress hb, Nat.toUInt32_eq,
    UInt32.toNat_ofNat']
  omega

end Addresses

namespace Front

/-- The ring at an address, as it is in the memory. -/
def ringAt (f : Front) (base : UInt32) : SampleRing :=
  ⟨.ofFn fun i => f.memory (slotAddress base i)⟩

theorem read_ringAt (f : Front) (base : UInt32) (i : UInt64) :
    (f.ringAt base).read i = f.memory (slotAddress base (SampleRing.slot i)) := by
  simp [ringAt, SampleRing.read]

/-! ## Since a transfer was set up -/

/-- The lengths of the histories when a transfer was set up. -/
structure Mark where
  stored : Nat
  ended : Nat
deriving DecidableEq

def mark (f : Front) : Mark := ⟨f.stored.length, f.ended.length⟩

def storedSince (f : Front) (m : Mark) : List Stored := f.stored.drop m.stored

def endedSince (f : Front) (m : Mark) : List Conversion := f.ended.drop m.ended

@[simp] theorem storedSince_mark (f : Front) : f.storedSince f.mark = [] := List.drop_length

@[simp] theorem endedSince_mark (f : Front) : f.endedSince f.mark = [] := List.drop_length

/-- What a command changes at once is not in the histories. -/
theorem mark_foldl_effect (f : Front) (cs : List Command) : (cs.foldl effect f).mark = f.mark := by
  induction cs generalizing f with
  | nil => rfl
  | cons c cs ih => exact (ih _).trans (by cases c <;> rfl)

/-- The count that every transfer starts with. -/
def fullCount : Nat := 0xffffffff

/-- Samples lie in a ring in the order of their numbers, and the last 256 are still there. -/
structure Laid (base : UInt32) (memory : UInt32 → Int16) (xs : List Stored) : Prop where
  address : ∀ {k x}, xs[k]? = some x → x.address = slotAddress base k
  latest : ∀ {k x}, xs[k]? = some x → xs.length ≤ k + 256 →
    memory (slotAddress base k) = x.sample

/-- The converter takes the four inputs in turn, the first of them at the mark. -/
structure Turning (m : Mark) (f : Front) : Prop where
  marked : m.ended ≤ f.ended.length
  rotation : f.rotation = channelInputs.toList
  selected : f.selected.val = (f.endedSince m).length % 4
  input : ∀ {k c}, (f.endedSince m)[k]? = some c → c.input.val = k % 4

/-- The channel stores what ends after the mark in the ring, from its first slot on, until its count
has run out. -/
structure Filling (base : UInt32) (m : Mark) (f : Front) : Prop where
  marked : m.stored ≤ f.stored.length
  queued : f.queued = true
  requests : f.requests = true
  active : f.dma.active = true
  readAddress : f.dma.readAddress = queueAddress
  ringSize : f.dma.ringSize = 9
  queue : 0 < f.dma.remaining → f.queue = []
  remaining : f.dma.remaining.toNat + (f.storedSince m).length = fullCount
  writeAddress : f.dma.writeAddress = slotAddress base (f.storedSince m).length
  conversions : (f.storedSince m).map Stored.toConversion = (f.endedSince m).take fullCount
  laid : Laid base f.memory (f.storedSince m)

variable {base : UInt32} {m : Mark} {f : Front}

/-! ### Conversions -/

theorem next_of_rotation (h : f.rotation = channelInputs.toList) : f.next = f.selected + 1 := by
  rw [next, h]
  generalize f.selected = i
  revert i
  decide

theorem Turning.finish (h : Turning m f) (s : Int16) : Turning m (f.finish s) := by
  have hsince : (f.finish s).endedSince m = f.endedSince m ++ [f.conversion s] :=
    List.drop_append_of_le_length h.marked
  refine ⟨?_, h.rotation, ?_, ?_⟩
  · show m.ended ≤ (f.ended ++ [f.conversion s]).length
    rw [List.length_append]
    exact Nat.le_add_right_of_le h.marked
  · have hsel : (f.finish s).selected = f.selected + 1 := next_of_rotation h.rotation
    rw [hsel, hsince, List.length_append, List.length_singleton, Fin.val_add, h.selected]
    show (_ % 4 + 1) % 4 = _
    omega
  · intro k c hc
    rw [hsince] at hc
    rcases getElem?_snoc hc with hc | ⟨rfl, rfl⟩
    · exact h.input hc
    · exact h.selected

structure Armed (base : UInt32) (m : Mark) (f : Front) : Prop where
  turning : Turning m f
  filling : Filling base m f

theorem Filling.moves (h : Filling base m f) (hr : 0 < f.dma.remaining) : f.Moves :=
  ⟨h.active, h.requests, h.readAddress, hr⟩

/-- What the channel may move is moved at once. -/
theorem Filling.pump (h : Filling base m f) : f.pump = f := by
  by_cases hr : 0 < f.dma.remaining
  · exact pump_of_empty (h.queue hr)
  · exact pump_of_not_moves fun hm => hr hm.2.2.2

/-- While there is count left, all that has ended since the mark is stored. -/
theorem Filling.conversions_of_remaining (h : Filling base m f) (hr : 0 < f.dma.remaining) :
    (f.storedSince m).length < fullCount ∧
      (f.storedSince m).map Stored.toConversion = f.endedSince m := by
  have hlt : (f.storedSince m).length < fullCount := by
    have hr' : 0 < f.dma.remaining.toNat := hr
    have := h.remaining
    omega
  have hlen := congrArg List.length h.conversions
  rw [List.length_map, List.length_take] at hlen
  refine ⟨hlt, h.conversions.trans (List.take_of_length_le ?_)⟩
  omega

theorem Laid.snoc {memory : UInt32 → Int16} {xs : List Stored} (hb : base.toNat % 512 = 0)
    (h : Laid base memory xs) (c : Conversion) :
    Laid base (fun a => if a = slotAddress base xs.length then c.sample else memory a)
      (xs ++ [⟨c, slotAddress base xs.length⟩]) where
  address := by
    intro k x hx
    rcases getElem?_snoc hx with hx | ⟨rfl, rfl⟩
    · exact h.address hx
    · rfl
  latest := by
    intro k x hx hlen
    rw [List.length_append, List.length_singleton] at hlen
    simp only [slotAddress_inj hb]
    rcases getElem?_snoc hx with hx | ⟨rfl, rfl⟩
    -- the slot that is written again is that of 256 samples back
    · have hk := (List.getElem?_eq_some_iff.1 hx).1
      rw [if_neg (by omega)]
      exact h.latest hx (by omega)
    · rw [if_pos rfl]

/-- A conversion that is stored is the next one, in the next slot. -/
theorem Filling.store (hb : base.toNat % 512 = 0) (h : Filling base m f)
    (hended : m.ended ≤ f.ended.length) (hr : 0 < f.dma.remaining) (c : Conversion) (i : AdcInput) :
    Filling base m
      { f.store c with queue := [], ended := f.ended ++ [c], selected := i } := by
  obtain ⟨hlt, hall⟩ := h.conversions_of_remaining hr
  have hsince : (f.stored ++ [(⟨c, f.dma.writeAddress⟩ : Stored)]).drop m.stored =
      f.storedSince m ++ [⟨c, slotAddress base (f.storedSince m).length⟩] := by
    rw [List.drop_append_of_le_length h.marked, h.writeAddress]
    rfl
  have hends : (f.ended ++ [c]).drop m.ended = f.endedSince m ++ [c] :=
    List.drop_append_of_le_length hended
  constructor
  case marked =>
    show m.stored ≤ (f.stored ++ [_]).length
    rw [List.length_append]
    exact Nat.le_add_right_of_le h.marked
  case queued => exact h.queued
  case requests => exact h.requests
  case active => exact h.active
  case readAddress => exact h.readAddress
  case ringSize => exact h.ringSize
  case queue => exact fun _ => rfl
  case remaining =>
    show (f.dma.remaining - 1).toNat + ((f.stored ++ [_]).drop m.stored).length = fullCount
    have hone : (1 : UInt32) ≤ f.dma.remaining := hr
    have := h.remaining
    rw [UInt32.toNat_sub_of_le _ _ hone, hsince, List.length_append, List.length_singleton]
    show f.dma.remaining.toNat - 1 + _ = _
    omega
  case writeAddress =>
    show Mover.after f.dma.ringSize f.dma.writeAddress =
      slotAddress base ((f.stored ++ [_]).drop m.stored).length
    rw [hsince, h.ringSize, h.writeAddress, after_slotAddress hb, List.length_append]
    rfl
  case conversions =>
    show ((f.stored ++ [_]).drop m.stored).map _ = ((f.ended ++ [c]).drop m.ended).take _
    have hlen := congrArg List.length hall
    rw [List.length_map] at hlen
    rw [hsince, hends, List.map_append, hall, List.take_of_length_le]
    · rfl
    · rw [List.length_append, List.length_singleton]
      omega
  case laid =>
    show Laid base (fun a => if a = f.dma.writeAddress then c.sample else f.memory a)
      ((f.stored ++ [_]).drop m.stored)
    rw [hsince, h.writeAddress]
    exact h.laid.snoc hb c

/-- A conversion after the count has run out changes nothing in the ring. -/
theorem Filling.skip (h : Filling base m f) (hended : m.ended ≤ f.ended.length)
    (hr : ¬0 < f.dma.remaining) (s : Int16) : Filling base m (f.finish s) where
  marked := h.marked
  queued := h.queued
  requests := h.requests
  active := h.active
  readAddress := h.readAddress
  ringSize := h.ringSize
  queue hr' := absurd hr' hr
  remaining := h.remaining
  writeAddress := h.writeAddress
  conversions := by
    have hr' : ¬0 < f.dma.remaining.toNat := hr
    have hfull := h.remaining
    have hlen := congrArg List.length h.conversions
    rw [List.length_map, List.length_take] at hlen
    show (f.storedSince m).map _ = ((f.ended ++ [_]).drop m.ended).take fullCount
    rw [List.drop_append_of_le_length hended, List.take_append_of_le_length]
    · exact h.conversions
    · show fullCount ≤ (f.endedSince m).length
      omega
  laid := h.laid

theorem Armed.land (hb : base.toNat % 512 = 0) (h : Armed base m f) (s : Int16) :
    Armed base m (f.land s) := by
  have hturn := h.turning.finish s
  by_cases hr : 0 < f.dma.remaining
  · rw [land_of_moves (h.filling.moves hr) (h.filling.queue hr) h.filling.queued]
    exact ⟨⟨hturn.marked, hturn.rotation, hturn.selected, hturn.input⟩,
      h.filling.store hb h.turning.marked hr _ _⟩
  · rw [land_of_not_moves fun hm => hr hm.2.2.2]
    exact ⟨hturn, h.filling.skip h.turning.marked hr s⟩

/-- Whether conversions go on is no matter to a transfer, nor that the queue is emptied. -/
theorem Armed.withFlow (h : Armed base m f) (running landing : Bool) {queue : List Conversion}
    (hq : f.queue = [] → queue = []) :
    Armed base m { f with running, landing, queue } where
  turning := ⟨h.turning.marked, h.turning.rotation, h.turning.selected, h.turning.input⟩
  filling :=
    { h.filling with queue := fun hr => hq (h.filling.queue hr) }

theorem Armed.convertAll (hb : base.toNat % 512 = 0) (h : Armed base m f) (ss : List Int16) :
    Armed base m (f.convertAll ss) := by
  induction ss generalizing f with
  | nil => exact h
  | cons s ss ih =>
    refine ih ?_
    unfold convert
    split
    · exact h.land hb s
    split
    · exact (h.withFlow f.running false id).land hb s
    · exact h

/-- The commands of a halt, and its end. -/
inductive Flow : Command → Prop
  | pause : Flow .adcPause
  | delay (n : UInt32) : Flow (.delayCycles n)
  | clear : Flow .adcClear
  | resume : Flow .adcResume

theorem Armed.effect (h : Armed base m f) {c : Command} (hc : Flow c) :
    Armed base m (f.effect c) := by
  cases hc with
  | pause => exact h.withFlow _ _ id
  | delay n => exact h.withFlow _ _ id
  | clear => exact h.withFlow _ _ fun _ => rfl
  | resume => exact h.withFlow _ _ id

/-! ### Setting a transfer up -/

/-- The commands that set up the converter, and then the channel. -/
def setUp (inputs : PerChannel AdcInput) (t : Transfer) : List Command :=
  [.adcDivider adcClockDivider 0, .adcFirst inputs.pitot, .adcRotation inputs, .adcRequestDma,
    .adcStartPaused, .dmaReadAddress adcFifoAddress, .dmaWriteAddress t.base,
    .dmaCount 0xffffffff, .dmaStart (dmaControl (trailingZeros (t.length * 2).toUInt32))]

/-- The transfer of a pipeline whose ring is at an address. -/
def ringTransfer (base : UInt32) : Transfer := ({ ring := base } : Pipeline).transfer

theorem describes_setUp {inputs : PerChannel AdcInput} :
    ∀ c ∈ setUp inputs (ringTransfer base), c ≠ .adcResume ∧ Describes c := by
  intro c hc
  simp only [setUp, List.mem_cons, List.not_mem_nil, or_false] at hc
  rcases hc with rfl | rfl | rfl | rfl | rfl | rfl | rfl | rfl | rfl
  case inr.inr.inr.inr.inr.inr.inr.inr =>
    have hfills : Mover.FillsRing (dmaControl (trailingZeros (256 * 2).toUInt32)) := by decide
    exact ⟨nofun, hfills⟩
  all_goals exact ⟨nofun, trivial⟩

theorem start_ringTransfer {d : Mover} (h : d.active = false) :
    d.start (dmaControl (trailingZeros (256 * 2).toUInt32)) =
      { d with remaining := d.reload, ringSize := 9, active := true } := by
  have hsize : (dmaControl (trailingZeros (256 * 2).toUInt32)).toBitVec.extractLsb' 6 4 = 9 := by
    decide
  have hactive : (dmaControl (trailingZeros (256 * 2).toUInt32)).toBitVec.getLsbD 0 = true := by
    decide
  rw [Mover.start, h, if_neg Bool.false_ne_true, hsize, hactive]
  rfl

/-- What the set-up leaves of the converter, with the channel behind it. -/
def readied (f : Front) (d : Mover) : Front :=
  { f with
    running := false, landing := f.running || f.landing
    selected := channelInputs.pitot, rotation := channelInputs.toList
    queued := true, requests := true, dma := d }

def readiedChannel (d : Mover) (base : UInt32) : Mover :=
  { d with
    readAddress := queueAddress, writeAddress := base, reload := 0xffffffff
    remaining := 0xffffffff, ringSize := 9, active := true }

theorem foldl_setUp (hidle : f.dma.active = false) :
    (setUp channelInputs (ringTransfer base)).foldl effect f =
      f.readied (readiedChannel f.dma base) := by
  let d : Mover :=
    { f.dma with readAddress := queueAddress, writeAddress := base, reload := 0xffffffff }
  have hd : d.active = false := hidle
  exact congrArg f.readied (start_ringTransfer hd)

/-- **Rotation, write address and count start together** when a converter at rest and an idle
channel are set up. -/
theorem armed_setUp (hf : f.Resting) (hidle : f.dma.active = false) :
    Armed base f.mark ((setUp channelInputs (ringTransfer base)).foldl effect f) := by
  rw [foldl_setUp hidle]
  generalize hg : f.readied (readiedChannel f.dma base) = g
  have hstored : g.storedSince f.mark = [] := hg ▸ storedSince_mark f
  have hended : g.endedSince f.mark = [] := hg ▸ endedSince_mark f
  constructor
  · constructor
    case marked => exact hg ▸ Nat.le_refl _
    case rotation => exact hg ▸ rfl
    case selected => rw [hended, ← hg]; rfl
    case input => simp [hended]
  · constructor
    case marked => exact hg ▸ Nat.le_refl _
    case queued | requests | active | readAddress | ringSize => exact hg ▸ rfl
    case queue => exact fun _ => hg ▸ hf.queue
    case remaining => rw [hstored, ← hg]; rfl
    case writeAddress => rw [hstored, ← hg]; exact (UInt32.add_zero _).symm
    case conversions => rw [hstored, hended]; rfl
    case laid => rw [hstored]; exact ⟨nofun, nofun⟩

/-! ### What the pipeline sees of it -/

/-- A count agrees with what was stored since a mark: it is the number of samples, the first ones to
end, each in the slot of its number and from the input of the channel that the reader gives it to.
So the count and the ring are those of a feed. -/
structure InStep (base : UInt32) (m : Mark) (inputs : PerChannel AdcInput) (n : UInt32)
    (f : Front) : Prop where
  count : n.toNat = (f.storedSince m).length
  address : ∀ {k x}, (f.storedSince m)[k]? = some x → x.address = slotAddress base k
  input : ∀ {k x}, (f.storedSince m)[k]? = some x → x.input = inputs.get (.ofIndex k)
  conversions : (f.storedSince m).map Stored.toConversion = (f.endedSince m).take fullCount
  feed : Feed.Ahead { ring := f.ringAt base, count := n } 0 ((f.storedSince m).map (·.sample))

theorem input_of_index {i : AdcInput} {k : Nat} (h : i.val = k % 4) :
    i = channelInputs.get (.ofIndex k) := by
  have hk : k % 4 < 4 := Nat.mod_lt _ (by decide)
  obtain rfl : i = ⟨k % 4, hk⟩ := Fin.ext h
  unfold Channel.ofIndex
  generalize k % 4 = j at hk ⊢
  match j, hk with
  | 0, _ | 1, _ | 2, _ | 3, _ => rfl

theorem Armed.inStep (h : Armed base m f) :
    InStep base m channelInputs (0xffffffff - f.dma.remaining) f := by
  have hfull := h.filling.remaining
  have hcount : (0xffffffff - f.dma.remaining).toNat = (f.storedSince m).length := by
    have hle : f.dma.remaining ≤ 0xffffffff := by
      rw [UInt32.le_iff_toNat_le]
      show _ ≤ fullCount
      omega
    rw [UInt32.toNat_sub_of_le _ _ hle]
    show fullCount - _ = _
    omega
  constructor
  case count => exact hcount
  case address => exact h.filling.laid.address
  case input =>
    intro k x hx
    -- a sample that is stored is one of those that ended, at the same place
    have hended : ((f.endedSince m).take fullCount)[k]? = some x.toConversion := by
      rw [← h.filling.conversions, List.getElem?_map, hx]
      rfl
    rw [List.getElem?_take] at hended
    split at hended
    · exact input_of_index (h.turning.input hended)
    · cases hended
  case conversions => exact h.filling.conversions
  case feed =>
    constructor
    · rw [List.length_map, ← hcount]
      simp
    · intro k s hs hlen
      rw [List.length_map] at hlen
      rw [List.getElem?_map, Option.map_eq_some_iff] at hs
      obtain ⟨x, hx, rfl⟩ := hs
      have hslot : slotAddress base (((0 : UInt32).toNat + k) % 256) = slotAddress base k := by
        rw [slotAddress, slotAddress, UInt32.toNat_zero, Nat.zero_add]
        exact congrArg (fun i => base + (2 * i).toUInt32) (Nat.mod_mod k 256)
      rw [read_ringAt, Feed.slot_ringIndex_add, hslot, h.filling.laid.latest hx hlen]

end Front

end SensorBoard
