/-!
# Digital lines

The board has four general-purpose lines in each direction; one index names output `n` and input
`n`. `PerLine α` is a value for each of them. `LineConfig.of` is the reference line map: how the
pad of each line is set up, with `lineMap` as its table.
-/

namespace SensorBoard

/-- A general-purpose line, in either direction. -/
inductive Line
  /-- As an input: the payload presence detect, active low. -/
  | gp0
  | gp1
  | gp2
  | gp3
deriving DecidableEq

namespace Line

def all : List Line := [gp0, gp1, gp2, gp3]

/-- The line's bit in a packed mask. -/
def index : Line → Nat
  | gp0 => 0
  | gp1 => 1
  | gp2 => 2
  | gp3 => 3

/-- Inputs 1 to 3 carry pulses; input 0 is the presence detect. -/
def carriesPulses : Line → Bool
  | gp0 => false
  | _ => true

theorem index_lt (l : Line) : l.index < 4 := by cases l <;> decide

theorem mem_all (l : Line) : l ∈ all := by cases l <;> decide

/-- The line at an index, counted modulo four. -/
def ofIndex (i : Nat) : Line :=
  match i % 4 with
  | 0 => gp0
  | 1 => gp1
  | 2 => gp2
  | _ => gp3

@[simp] theorem ofIndex_index (l : Line) : ofIndex l.index = l := by cases l <;> rfl

theorem index_ofIndex {i : Nat} (h : i < 4) : (ofIndex i).index = i := by
  match i, h with
  | 0, _ | 1, _ | 2, _ | 3, _ => rfl

end Line

structure PerLine (α : Type) where
  gp0 : α
  gp1 : α
  gp2 : α
  gp3 : α
deriving DecidableEq

namespace PerLine

variable {α β : Type}

def replicate (a : α) : PerLine α := ⟨a, a, a, a⟩

def ofFn (f : Line → α) : PerLine α := ⟨f .gp0, f .gp1, f .gp2, f .gp3⟩

def get (v : PerLine α) : Line → α
  | .gp0 => v.gp0
  | .gp1 => v.gp1
  | .gp2 => v.gp2
  | .gp3 => v.gp3

def map (f : α → β) (v : PerLine α) : PerLine β := ofFn fun l => f (v.get l)

def toList (v : PerLine α) : List α := [v.gp0, v.gp1, v.gp2, v.gp3]

@[simp] theorem get_ofFn (f : Line → α) (l : Line) : (ofFn f).get l = f l := by cases l <;> rfl

@[simp] theorem get_replicate (a : α) (l : Line) : (replicate a).get l = a := by cases l <;> rfl

@[simp] theorem get_map (f : α → β) (v : PerLine α) (l : Line) : (v.map f).get l = f (v.get l) :=
  get_ofFn _ l

theorem toList_eq_map (v : PerLine α) : v.toList = Line.all.map v.get := rfl

theorem ext_get {v w : PerLine α} (h : ∀ l, v.get l = w.get l) : v = w := by
  have h₀ := h .gp0; have h₁ := h .gp1; have h₂ := h .gp2; have h₃ := h .gp3
  cases v; cases w; simp_all [get]

end PerLine

inductive Direction
  /-- Sampled by the board. -/
  | input
  /-- Driven by the board. -/
  | output
deriving DecidableEq

inductive Pull
  | none
  | up
  | down
deriving DecidableEq

/-- The electrical set-up of one line. -/
structure LineConfig where
  line : Line
  direction : Direction
  pull : Pull
deriving DecidableEq

/-- Outputs are push-pull without bias. The presence detect pulls its line low when a payload is
fitted, so it idles high; pulse inputs idle low. -/
def Line.pull (l : Line) : Direction → Pull
  | .output => .none
  | .input => if l.carriesPulses then .down else .up

/-- The reference set-up of a line. -/
def LineConfig.of (l : Line) (d : Direction) : LineConfig := ⟨l, d, l.pull d⟩

/-- The reference line map: the outputs, then the inputs, in line order. -/
def lineMap : List LineConfig :=
  Line.all.map (LineConfig.of · .output) ++ Line.all.map (LineConfig.of · .input)

end SensorBoard
