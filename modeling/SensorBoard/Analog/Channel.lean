/-!
# Analog channels

Four analog inputs are converted in turn, so the samples of a stream belong to the channels in
rotation (`Channel.ofSample`). `PerChannel α` is a value for each channel; the board's readings are
`Readings`, one averaged value per channel.
-/

namespace SensorBoard

/-- An analog input, in the order of conversion. -/
inductive Channel
  /-- Pitot tube differential pressure. -/
  | pitot
  /-- Battery current sense. -/
  | batteryCurrent
  /-- Battery voltage divider. -/
  | batteryVoltage
  /-- Auxiliary input: the rangefinder on the reference board. -/
  | aux
deriving DecidableEq

namespace Channel

def all : List Channel := [pitot, batteryCurrent, batteryVoltage, aux]

/-- The place of a channel in the rotation. -/
def index : Channel → Nat
  | pitot => 0
  | batteryCurrent => 1
  | batteryVoltage => 2
  | aux => 3

/-- The channel at a place of the rotation. -/
def ofIndex (i : Nat) : Channel :=
  match i % 4 with
  | 0 => pitot
  | 1 => batteryCurrent
  | 2 => batteryVoltage
  | _ => aux

/-- The channel that the sample at a ring index came from. -/
def ofSample (i : UInt64) : Channel := ofIndex i.toNat

@[simp] theorem ofIndex_index (c : Channel) : ofIndex c.index = c := by cases c <;> rfl

@[simp] theorem index_ofIndex (i : Nat) : (ofIndex i).index = i % 4 := by
  have h : i % 4 < 4 := Nat.mod_lt _ (by decide)
  unfold ofIndex
  generalize i % 4 = j at h ⊢
  match j, h with
  | 0, _ | 1, _ | 2, _ | 3, _ => rfl

theorem mem_all (c : Channel) : c ∈ all := by cases c <;> decide

end Channel

structure PerChannel (α : Type) where
  pitot : α
  batteryCurrent : α
  batteryVoltage : α
  aux : α
deriving DecidableEq

namespace PerChannel

variable {α β : Type}

def replicate (a : α) : PerChannel α := ⟨a, a, a, a⟩

def get (v : PerChannel α) : Channel → α
  | .pitot => v.pitot
  | .batteryCurrent => v.batteryCurrent
  | .batteryVoltage => v.batteryVoltage
  | .aux => v.aux

def set (v : PerChannel α) (c : Channel) (a : α) : PerChannel α :=
  match c with
  | .pitot => { v with pitot := a }
  | .batteryCurrent => { v with batteryCurrent := a }
  | .batteryVoltage => { v with batteryVoltage := a }
  | .aux => { v with aux := a }

def ofFn (f : Channel → α) : PerChannel α :=
  ⟨f .pitot, f .batteryCurrent, f .batteryVoltage, f .aux⟩

def map (f : α → β) (v : PerChannel α) : PerChannel β := ofFn fun c => f (v.get c)

/-- The values in the order of conversion. -/
def toList (v : PerChannel α) : List α := [v.pitot, v.batteryCurrent, v.batteryVoltage, v.aux]

@[simp] theorem get_replicate (a : α) (c : Channel) : (replicate a).get c = a := by cases c <;> rfl

@[simp] theorem get_ofFn (f : Channel → α) (c : Channel) : (ofFn f).get c = f c := by
  cases c <;> rfl

@[simp] theorem get_map (f : α → β) (v : PerChannel α) (c : Channel) :
    (v.map f).get c = f (v.get c) :=
  get_ofFn _ c

theorem get_set (v : PerChannel α) (c d : Channel) (a : α) :
    (v.set c a).get d = if c = d then a else v.get d := by
  cases c <;> cases d <;> rfl

@[simp] theorem get_set_self (v : PerChannel α) (c : Channel) (a : α) : (v.set c a).get c = a := by
  simp [get_set]

theorem toList_eq_map (v : PerChannel α) : v.toList = Channel.all.map v.get := rfl

theorem ext_get {v w : PerChannel α} (h : ∀ c, v.get c = w.get c) : v = w := by
  have h₀ := h .pitot; have h₁ := h .batteryCurrent; have h₂ := h .batteryVoltage; have h₃ := h .aux
  cases v; cases w; simp_all [get]

end PerChannel

/-- One averaged reading per channel, each at most 32768. -/
abbrev Readings := PerChannel UInt16

end SensorBoard
