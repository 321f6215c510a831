import SensorBoard.Digital.Line

/-!
# Line masks

Levels of four lines, packed with bit `n` for line `n`. A byte from outside is cut to its low four
bits where it enters (`LineMask.ofByte`), so the bits above never travel further.
-/

namespace SensorBoard

/-- One bit per line. -/
abbrev LineMask := BitVec 4

namespace LineMask

/-- The mask in a byte's low four bits. -/
def ofByte (b : UInt8) : LineMask := b.toBitVec.setWidth 4

/-- The byte with the mask in its low four bits and zeros above. -/
def toByte (m : LineMask) : UInt8 := ⟨m.setWidth 8⟩

def has (m : LineMask) (l : Line) : Bool := m.getLsbD l.index

def only (l : Line) : LineMask := 1#4 <<< l.index

/-- The mask that has each line's bit as given. -/
def ofFn (f : Line → Bool) : LineMask :=
  Line.all.foldl (fun m l => if f l then m ||| only l else m) 0

@[simp] theorem ofByte_toByte (m : LineMask) : ofByte m.toByte = m := by
  simp [ofByte, toByte]

@[simp] theorem has_ofFn (f : Line → Bool) (l : Line) : (ofFn f).has l = f l := by
  simp only [ofFn, Line.all, List.foldl]
  cases l <;> cases f .gp0 <;> cases f .gp1 <;> cases f .gp2 <;> cases f .gp3 <;> rfl

@[simp] theorem has_and (m n : LineMask) (l : Line) : (m &&& n).has l = (m.has l && n.has l) := by
  simp [has]

@[simp] theorem has_or (m n : LineMask) (l : Line) : (m ||| n).has l = (m.has l || n.has l) := by
  simp [has]

@[simp] theorem has_not (m : LineMask) (l : Line) : (~~~m).has l = !m.has l := by
  simp [has, l.index_lt]

@[simp] theorem has_zero (l : Line) : (0 : LineMask).has l = false := by simp [has]

@[simp] theorem has_only (l l' : Line) : (only l).has l' = decide (l = l') := by
  cases l <;> cases l' <;> decide

theorem ext_has {m n : LineMask} (h : ∀ l, m.has l = n.has l) : m = n := by
  apply BitVec.eq_of_getLsbD_eq
  intro i hi
  have := h (Line.ofIndex i)
  rwa [has, has, Line.index_ofIndex hi] at this

end LineMask

end SensorBoard
