import SensorBoard.Chip.Machine
import SensorBoard.Firmware.Program
import SensorBoard.Proofs.Headroom
import SensorBoard.Proofs.Scene

/-!
# The average that an acquisition stands for

A drain is a loop: a cursor that wraps moves on, and each sample goes to one of four accumulators of
machine words. What comes out can be said without any of it, by the places of the backlog alone. Two
wraps have to cancel for that, the one of the ring and the one of the counts, and a start anywhere
in the rotation gives the channels different numbers of samples.

* `Readable`: a world that is not changed by being looked at. The ring may hold anything, and the
  sampler's count need not belong to it. The board's converter and the rig are such worlds.
* `referenceAverage`: sixteen times the mean of a channel's places, by number.
* `toNat_get_meansOf_readMany`: what is drained from a ring averages to that.
* `acquire_reference`: **a backlog that is drained gives the reference averages**, from any cursor
  and any ring, and nothing else changes than the reader's cursor and averages.
-/

namespace SensorBoard

/-- A world in which asking for the count, reading a sample and logging leave the ring and the
sampler as they are. What a sampler is does not matter. -/
class Readable (σ : Type) [Sampler σ] [Logger σ] where
  Engine : Type
  ring : σ → SampleRing
  engine : σ → Engine
  written_ok {w w' : σ} {n : UInt32} (h : Sampler.written.runOn w = (.ok n, w')) :
    ring w' = ring w ∧ engine w' = engine w
  sampleAt (i : UInt64) (w : σ) : ((Sampler.sampleAt i).runOn w).1 = (ring w).read i
  kept_sampleAt (i : UInt64) (w : σ) : ring ((Sampler.sampleAt i).runOn w).2 = ring w ∧
    engine ((Sampler.sampleAt i).runOn w).2 = engine w
  kept_log (m : Message) (w : σ) : ring ((log m).runOn w).2 = ring w ∧
    engine ((log m).runOn w).2 = engine w

/-! ## The reference -/

namespace SampleRing

/-- The sample at a place, counted on over the end of the ring. -/
def place (r : SampleRing) (i : Nat) : Int16 :=
  r.slots.get ⟨i % ringCapacity, Nat.mod_lt _ (by decide)⟩

theorem read_ringIndex_add (r : SampleRing) (n : UInt32) (k : Nat) :
    r.read (ringIndex (n + k.toUInt32)) = r.place (n.toNat + k) :=
  congrArg r.slots.get (Fin.ext (Feed.slot_ringIndex_add n k))

end SampleRing

theorem ofSample_ringIndex_add (n : UInt32) (k : Nat) :
    Channel.ofSample (ringIndex (n + k.toUInt32)) = .ofIndex (n.toNat + k) := by
  rw [Channel.ofSample, toNat_ringIndex_add, ← Channel.index_inj, Channel.index_ofIndex,
    Channel.index_ofIndex]
  omega

/-- The steps of a backlog, from a place on, at which a channel has its turn. -/
def Channel.turns (c : Channel) (start backlog : Nat) : List Nat :=
  (List.range backlog).filter fun k => (start + k) % 4 = c.index

/-- Sixteen times the mean of a channel's samples in a backlog, rounded down; 0 if it has none. -/
def referenceAverage (r : SampleRing) (start backlog : Nat) (c : Channel) : Nat :=
  let turns := c.turns start backlog
  16 * clampedSum (turns.map fun k => r.place (start + k)) / turns.length

/-- The wrap of the counts is no matter: it is at a multiple of the channels' number. -/
theorem share_numbered_map_range (c : Channel) (n : UInt32) (g : Nat → Int16) (k : Nat) :
    c.share (numbered n ((List.range k).map g)) = (c.turns n.toNat k).map g := by
  have hplace : ∀ i : Nat, (n + i.toUInt32).toNat % channelCount = (n.toNat + i) % 4 := by
    intro i
    rw [UInt32.toNat_add, Nat.toUInt32_eq, UInt32.toNat_ofNat', show channelCount = 4 from rfl]
    omega
  rw [numbered_map_range, Channel.share, List.filter_map, List.map_map, Channel.turns]
  congr 1
  refine List.filter_congr fun i _ => ?_
  simp only [Function.comp_apply, hplace]

namespace Pipeline

/-! ## What is read -/

variable {σ : Type} [Sampler σ] [Logger σ] [Readable σ] {p : Pipeline} {w w₁ : σ} {n : UInt32}

/-- **A backlog is read as it is in the ring, in order**, and the world stays as it is. -/
theorem readFrom_readable (n : UInt32) (k : Nat) (w : σ) :
    let r := (readFrom n k).runOn w
    r.1 = (List.range k).map (fun i => (Readable.ring w).place (n.toNat + i)) ∧
      Readable.ring r.2 = Readable.ring w ∧ Readable.engine r.2 = Readable.engine w := by
  have hring : ∀ i, (Readable.ring w).place (n.toNat + i) =
      (Readable.ring w).read (ringIndex (n + i.toUInt32)) := fun i =>
    ((Readable.ring w).read_ringIndex_add n i).symm
  simp only [hring]
  clear hring
  induction k generalizing n w with
  | zero => exact ⟨rfl, rfl, rfl⟩
  | succ k ih =>
    let s := (Sampler.sampleAt (ringIndex n)).runOn w
    let w₁ := ((log (drainMessage (n, s.1))).runOn s.2).2
    obtain ⟨hring, hengine⟩ : Readable.ring w₁ = Readable.ring w ∧
        Readable.engine w₁ = Readable.engine w := by
      obtain ⟨h₁, h₂⟩ := Readable.kept_sampleAt (ringIndex n) w
      obtain ⟨h₃, h₄⟩ := Readable.kept_log (drainMessage (n, s.1)) s.2
      exact ⟨h₃.trans h₁, h₄.trans h₂⟩
    obtain ⟨hread, hring', hengine'⟩ := ih (n + 1) w₁
    rw [runOn_readFrom_succ_of_one]
    refine ⟨?_, hring'.trans hring, hengine'.trans hengine⟩
    show s.1 :: ((readFrom (n + 1) k).runOn w₁).1 = _
    rw [hread, hring, List.range_succ_eq_map, List.map_cons, List.map_map, count_add_zero]
    refine List.cons_eq_cons.2 ⟨Readable.sampleAt _ w, List.map_congr_left fun i _ => ?_⟩
    rw [count_one_add]
    rfl

theorem toNat_get_meansOf_readMany (r : SampleRing) (n : UInt32) (k : Nat) (c : Channel) :
    ((meansOf (numbered n ((List.range k).map fun i => r.place (n.toNat + i)))).get c).toNat =
      referenceAverage r n.toNat k c := by
  rw [toNat_get_meansOf, share_numbered_map_range, meanOf, List.length_map]
  rfl

variable [CriticalSection σ]

/-- What an acquisition is that drains a backlog, said by the places of the backlog in the ring. -/
structure Averages (h : Held Pipeline σ) (count : UInt32) : Prop where
  /-- It returns the reference averages, without a fault, and they are the ones that are kept. -/
  returned : ∃ readings, (acquire.runOn h).1 = .ok ⟨readings, none⟩ ∧
    (acquire.runOn h).2.own.averages = readings ∧
      ∀ c, (readings.get c).toNat = referenceAverage (Readable.ring h.world)
        h.own.consumed.toNat (count - h.own.consumed).toNat c
  /-- The samples are taken in order, each into the channel of its place. -/
  visited : (drained h).map (fun x => (x.1.toNat, x.2)) =
    (List.range (count - h.own.consumed).toNat).map fun k =>
      let i := h.own.consumed.toNat + k
      (i % 256, Channel.ofIndex i, (Readable.ring h.world).place i)
  caughtUp : (acquire.runOn h).2.own.consumed = count
  recoveries : (acquire.runOn h).2.own.recoveries = h.own.recoveries
  cleared : (acquire.runOn h).2.own.Cleared
  ring : Readable.ring (acquire.runOn h).2.world = Readable.ring h.world
  engine : Readable.engine (acquire.runOn h).2.world = Readable.engine h.world
  /-- The sampler is asked for its count and for nothing else. -/
  asked : calls h = [.written (.ok count)]

theorem calls_healthy {σ : Type} [Sampler σ] [Logger σ] [CriticalSection σ] {w w₁ : σ}
    (hp : p.Cleared) (hw : Sampler.written.runOn w = (.ok n, w₁))
    (hn : health (p.backlog n) = none) :
    calls (⟨p, w⟩ : Held Pipeline σ) = [.written (.ok n)] := by
  rw [calls, observe, acquire_healthy hp (written_observed hw) hn]
  simp only [Observed.calls_log, (readFrom_record _ _ _).1]

/-- **A healthy acquisition is the reference average**, for any cursor and any ring, whether or not
the sampler's count belongs to them. -/
theorem acquire_reference (hp : p.Cleared) (hw : Sampler.written.runOn w = (.ok n, w₁))
    (hmin : 1 ≤ (n - p.consumed).toNat) (hmax : (n - p.consumed).toNat ≤ 224) :
    Averages ⟨p, w⟩ n := by
  have hn : health (p.backlog n) = none := health_eq_none_iff.2 ⟨hmin, hmax⟩
  obtain ⟨hring₁, hengine₁⟩ := Readable.written_ok hw
  obtain ⟨hread, hring, hengine⟩ := readFrom_readable p.consumed (p.backlog n).toNat w₁
  rw [hring₁] at hread hring
  rw [hengine₁] at hengine
  let ss := (List.range (p.backlog n).toNat).map fun i =>
    (Readable.ring w).place (p.consumed.toNat + i)
  let w₂ := ((readFrom p.consumed (p.backlog n).toNat).runOn w₁).2
  let readings := meansOf (numbered p.consumed ss)
  have hrun : acquire.runOn (⟨p, w⟩ : Held Pipeline σ) =
      (.ok ⟨readings, none⟩, ⟨({ p with consumed := n } : Pipeline).closed readings,
        ((log (.averages readings)).runOn w₂).2⟩) := by
    rw [acquire_healthy hp hw hn]
    simp only [hread]
    rfl
  obtain ⟨hring', hengine'⟩ := Readable.kept_log (.averages readings) w₂
  constructor
  case returned =>
    refine ⟨readings, by rw [hrun], by rw [hrun]; exact averages_closed _ _, fun c => ?_⟩
    exact toNat_get_meansOf_readMany _ _ _ c
  case visited =>
    rw [drained_healthy hp hw hn, hread, numbered_map_range, List.map_map, List.map_map]
    exact List.map_congr_left fun k _ =>
      Prod.ext (toNat_ringIndex_add ..) (Prod.ext (ofSample_ringIndex_add ..) rfl)
  case caughtUp => rw [hrun]; rfl
  case recoveries => rw [hrun]; rfl
  case cleared => rw [hrun]; exact cleared_closed _ _
  case ring => rw [hrun]; exact hring'.trans hring
  case engine => rw [hrun]; exact hengine'.trans hengine
  case asked => exact calls_healthy hp hw hn

end Pipeline

/-! ## Worlds that can be read -/

/-- The board's own converter with its transfer, on a machine on which nothing happens meanwhile. -/
instance AdcDma.readable : Readable (Held AdcDma Machine) where
  Engine := AdcDma × Chip
  ring h := h.world.chip.ring
  engine h := (h.own, h.world.chip)
  written_ok {h h' n} hw := by
    have hsame : (AdcDma.written.runOn h).2 = h := by
      obtain ⟨⟨adc, fifo, inputs⟩, m⟩ := h
      cases fifo <;> rfl
    have hafter : (AdcDma.written.runOn h).2 = h' := congrArg Prod.snd hw
    rw [← hafter, hsame]
    exact ⟨rfl, rfl⟩
  sampleAt _ _ := rfl
  kept_sampleAt _ _ := ⟨rfl, rfl⟩
  kept_log _ _ := ⟨rfl, rfl⟩

namespace Rig

/-- A rig apart from its trace. -/
def untraced (r : Rig) : Rig := { r with trace := #[] }

instance : Readable Rig where
  Engine := Rig
  ring := ring
  engine := untraced
  written_ok {r r' n} h := by
    change Attempt.runOn (reach .written (fun r => .written r.written) >>= _) r = _ at h
    rw [Attempt.runOn_bind, runOn_reach] at h
    by_cases hf : r.failAt = some .written
    · rw [if_pos hf] at h
      cases h
    · rw [if_neg hf] at h
      cases h
      exact ⟨rfl, rfl⟩
  sampleAt _ _ := rfl
  kept_sampleAt _ _ := ⟨rfl, rfl⟩
  kept_log _ _ := ⟨rfl, rfl⟩

/-- Six samples over the end of the ring and over the wrap of the counts. The first is of channel 1,
and two channels get two samples each. -/
theorem acquire_reference_over_wrap :
    let p : Pipeline := { ring := ringBase, consumed := 0xFFFFFFFD }
    let r : Rig := { start 0 0 0 with
      written := 3, ring := SampleRing.zero.writeAll 253 [100, -5, 3000, 7, 8, 9] }
    (1 ≤ ((3 : UInt32) - p.consumed).toNat ∧ ((3 : UInt32) - p.consumed).toNat ≤ 224) ∧
      Pipeline.Averages ⟨p, r⟩ 3 ∧
        (Pipeline.acquire.runOn (⟨p, r⟩ : Held Pipeline Rig)).1 =
          .ok ⟨⟨112, 864, 72, 32752⟩, none⟩ := by
  intro p r
  have hp : p.Cleared := by intro c; cases c <;> exact ⟨rfl, rfl⟩
  have hw : Sampler.written.runOn r = (.ok 3, (Sampler.written.runOn r).2) := rfl
  have h : Pipeline.Averages ⟨p, r⟩ 3 :=
    Pipeline.acquire_reference hp hw (by decide) (by decide)
  refine ⟨by decide, h, ?_⟩
  obtain ⟨readings, hrun, -, hreadings⟩ := h.returned
  have hvalues : readings = ⟨112, 864, 72, 32752⟩ := by
    refine PerChannel.ext_get fun c => UInt16.toNat_inj.1 ((hreadings c).trans ?_)
    cases c <;> decide +kernel
  rw [hrun, hvalues]

end Rig

end SensorBoard
