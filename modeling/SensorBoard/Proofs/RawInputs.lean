import SensorBoard.Proofs.Heard
import SensorBoard.Proofs.Outputs

/-!
# The input lines, past the controller

The edge handler works on the input lines while their pins belong to the controller. It goes by the
numbers of the pins: it picks the levels out of one word, and clears edges in words that eight pins
share, four events each. The lines may be on any pins, so they may share a word with each other and
with pins that are not the handler's.

* `Chip.clearEdges`: the edges of some pins cleared, one write after the other. What is left of a
  pin depends on whether it is listed, and not on the words (`get_latched_clearEdges_of_mem`).
* `EdgeLatch.raw_inputs`: **the levels are those that the controller reads, and acknowledging
  clears the edges of the lines and touches nothing else.**
-/

namespace SensorBoard

/-! ## Clearing the edges of pins -/

namespace Chip

/-- In one word the event bits of different pins do not overlap. -/
theorem edges_apart (i j : Fin 8) :
    (((0b1100 : UInt32) <<< (4 * i.val.toUInt32)).toBitVec >>> (4 * j.val)).setWidth 4 =
      if i = j then 0b1100#4 else 0#4 := by
  decide +revert

/-- Clearing a pin's edges leaves its other events, and all events of other pins. -/
theorem get_latched_clearEdge (c : Chip) (g g' : Gpio) :
    (c.clearEvents (g.val / 8) (EdgeLatch.edgeBits g)).latched.get g' =
      if g' = g then c.latched.get g' &&& 0b0011#4 else c.latched.get g' := by
  have hbits : ((EdgeLatch.edgeBits g).toBitVec >>> (4 * (g'.val % 8))).setWidth 4 =
      if g.val % 8 = g'.val % 8 then 0b1100#4 else 0#4 := by
    have h := edges_apart ⟨g.val % 8, Nat.mod_lt _ (by decide)⟩
      ⟨g'.val % 8, Nat.mod_lt _ (by decide)⟩
    simp only [Fin.mk.injEq] at h
    exact h
  rw [get_latched_clearEvents, hbits]
  by_cases hword : g'.val / 8 = g.val / 8
  · rw [if_pos hword]
    by_cases hplace : g.val % 8 = g'.val % 8
    · -- the same place in the same word is the same pin
      have hsame : g' = g := Fin.ext (by omega)
      rw [if_pos hplace, if_pos hsame]
      rfl
    · have hother : g' ≠ g := fun h => hplace (by rw [h])
      rw [if_neg hplace, if_neg hother]
      exact BitVec.and_allOnes
  · have hother : g' ≠ g := fun h => hword (by rw [h])
    rw [if_neg hword, if_neg hother]

/-- The edges of some pins cleared, one write after the other. -/
def clearEdges (c : Chip) (gs : List Gpio) : Chip :=
  gs.foldl (fun c g => c.clearEvents (g.val / 8) (EdgeLatch.edgeBits g)) c

theorem clearEdges_cons (c : Chip) (g : Gpio) (gs : List Gpio) :
    c.clearEdges (g :: gs) =
      (c.clearEvents (g.val / 8) (EdgeLatch.edgeBits g)).clearEdges gs := by
  simp only [clearEdges, List.foldl_cons]

theorem get_latched_clearEdges_of_notMem {gs : List Gpio} {g : Gpio} (c : Chip) (h : g ∉ gs) :
    (c.clearEdges gs).latched.get g = c.latched.get g := by
  induction gs generalizing c with
  | nil => rfl
  | cons g' gs ih =>
    have hhead : g ≠ g' := fun heq => h (List.mem_cons.2 (.inl heq))
    have htail : g ∉ gs := fun hmem => h (List.mem_cons.2 (.inr hmem))
    rw [clearEdges_cons, ih _ htail, get_latched_clearEdge, if_neg hhead]

/-- **The writes do not disturb each other**: each listed pin loses its edges and nothing else, also
if it shares its word with others or is listed twice. -/
theorem get_latched_clearEdges_of_mem {gs : List Gpio} {g : Gpio} (c : Chip) (h : g ∈ gs) :
    (c.clearEdges gs).latched.get g = c.latched.get g &&& 0b0011#4 := by
  induction gs generalizing c with
  | nil => cases h
  | cons g' gs ih =>
    rw [clearEdges_cons]
    by_cases htail : g ∈ gs
    · rw [ih _ htail, get_latched_clearEdge]
      split
      · -- the first write has cleared it, and the later one finds nothing more to clear
        rw [BitVec.and_assoc, BitVec.and_self]
      · rfl
    · have hhead : g = g' := (List.mem_cons.1 h).resolve_right htail
      rw [get_latched_clearEdges_of_notMem _ htail, get_latched_clearEdge, if_pos hhead]

theorem exists_clearEvents (c : Chip) (word : Nat) (bits : UInt32) :
    ∃ events, c.clearEvents word bits = { c with latched := events } := ⟨_, rfl⟩

/-- Nothing but latched events changes. -/
theorem exists_clearEdges (c : Chip) (gs : List Gpio) :
    ∃ events, c.clearEdges gs = { c with latched := events } := by
  induction gs generalizing c with
  | nil => exact ⟨c.latched, rfl⟩
  | cons g gs ih =>
    obtain ⟨events, h⟩ := c.exists_clearEvents (g.val / 8) (EdgeLatch.edgeBits g)
    rw [clearEdges_cons, h]
    exact ih { c with latched := events }

/-- No edge of the pin is latched if its two edge bits are clear. -/
theorem not_pending_of_cleared {c : Chip} {g : Gpio} {x : BitVec 4}
    (h : c.latched.get g = x &&& 0b0011#4) : ¬c.Pending g := by
  have hclear : ∀ x : BitVec 4, ¬x &&& 0b0011#4 &&& 0b1100#4 ≠ 0#4 := by decide
  rw [Pending, h]
  exact hclear x

end Chip

/-! ## Acknowledging -/

namespace EdgeLatch

/-- The writes of an acknowledgement. -/
def writes (gs : List Gpio) : List Machine.Event :=
  gs.map fun g => .did (.clearEvents (g.val / 8) (edgeBits g))

theorem runOn_clear (gs : List Gpio) (m : Machine) :
    ((gs.forM fun g => (perform (.clearEvents (g.val / 8) (edgeBits g)) : Step Machine Unit)).runOn
      m).2 =
      { m with chip := m.chip.clearEdges gs, trace := m.trace ++ (writes gs).toArray } := by
  induction gs generalizing m with
  | nil =>
    rw [writes, List.map_nil, Array.append_empty]
    rfl
  | cons g gs ih =>
    have hcons : ∀ f : Gpio → Step Machine PUnit, (g :: gs).forM f = f g >>= fun _ => gs.forM f :=
      fun f => rfl
    have hone : ((perform (.clearEvents (g.val / 8) (edgeBits g)) : Step Machine Unit).runOn m).2 =
        (m.note (.did (.clearEvents (g.val / 8) (edgeBits g)))).onChip
          (·.clearEvents (g.val / 8) (edgeBits g)) := rfl
    rw [hcons, Step.runOn_bind, ih, hone, Chip.clearEdges_cons, writes, writes, List.map_cons]
    simp [Machine.note, Machine.onChip]

/-- An acknowledgement, and what it was given. -/
theorem runOn_acknowledge (e : EdgeLatch) (m : Machine) :
    (e.acknowledge.runOn m).2 =
      { m with
        chip := m.chip.clearEdges e.gpios.toList
        trace := m.trace ++ (writes e.gpios.toList).toArray } :=
  runOn_clear e.gpios.toList m

theorem mem_gpios (e : EdgeLatch) (g : Gpio) :
    g ∈ e.gpios.toList ↔ ∃ l, e.gpios.get l = g := by
  rw [PerLine.toList_eq_map, List.mem_map]
  exact ⟨fun ⟨l, _, h⟩ => ⟨l, h⟩, fun ⟨l, h⟩ => ⟨l, l.mem_all, h⟩⟩

/-- How the latch of a controller's inputs reads and acknowledges them. -/
structure Raw (c : Controller Pin Pin) (m : Machine) : Prop where
  /-- The levels are the mask that the controller reads from the same pins. -/
  levels : ((ofPins c.inputs).levels.runOn m).1 =
    (Controller.readInputs.runOn (⟨c, m⟩ : Held (Controller Pin Pin) Machine)).1
  /-- Each bit is that of the line's pin in the word of all levels. -/
  has (l : Line) : ((ofPins c.inputs).levels.runOn m).1.has l =
    m.chip.wires.getLsbD (c.inputs.get l).gpio
  /-- To read them changes nothing. -/
  read : ((ofPins c.inputs).levels.runOn m).2 = m
  /-- After an acknowledgement no line has an edge pending. -/
  acknowledged (l : Line) :
    ¬((ofPins c.inputs).acknowledge.runOn m).2.chip.Pending (c.inputs.get l).gpio
  /-- The other events of the lines are kept. -/
  others (l : Line) :
    ((ofPins c.inputs).acknowledge.runOn m).2.chip.latched.get (c.inputs.get l).gpio =
      m.chip.latched.get (c.inputs.get l).gpio &&& 0b0011#4
  /-- All events of every other pin are kept. -/
  kept (g : Gpio) (h : ∀ l, (c.inputs.get l).gpio ≠ g) :
    ((ofPins c.inputs).acknowledge.runOn m).2.chip.latched.get g = m.chip.latched.get g
  /-- Nothing else of the machine changes; the writes are on its trace. -/
  frame : ∃ events, ((ofPins c.inputs).acknowledge.runOn m).2 =
    { m with
      chip := { m.chip with latched := events }
      trace := m.trace ++ (writes (ofPins c.inputs).gpios.toList).toArray }

/-- **Reading and clearing by number is reading and clearing the lines**, on whatever pins they are,
at all levels and with any events latched. -/
theorem raw_inputs (c : Controller Pin Pin) (m : Machine) : Raw c m := by
  have hgpio (l : Line) : (ofPins c.inputs).gpios.get l = (c.inputs.get l).gpio := by
    rw [ofPins, PerLine.get_map]
  have hhas (l : Line) : ((ofPins c.inputs).levels.runOn m).1.has l =
      m.chip.wires.getLsbD (c.inputs.get l).gpio := by
    rw [has_levels, hgpio]
    rfl
  have hmem (g : Gpio) : g ∈ (ofPins c.inputs).gpios.toList ↔ ∃ l, (c.inputs.get l).gpio = g := by
    simp only [mem_gpios, hgpio]
  have hline (l : Line) :
      ((ofPins c.inputs).acknowledge.runOn m).2.chip.latched.get (c.inputs.get l).gpio =
        m.chip.latched.get (c.inputs.get l).gpio &&& 0b0011#4 := by
    rw [runOn_acknowledge]
    exact m.chip.get_latched_clearEdges_of_mem ((hmem _).2 ⟨l, rfl⟩)
  constructor
  case levels =>
    refine LineMask.ext_has fun l => ?_
    rw [hhas, Controller.has_readInputs]
    rfl
  case has => exact hhas
  case read => rfl
  case acknowledged => exact fun l => Chip.not_pending_of_cleared (hline l)
  case others => exact hline
  case kept =>
    intro g h
    have hnot : g ∉ (ofPins c.inputs).gpios.toList := fun hg => by
      obtain ⟨l, hl⟩ := (hmem g).1 hg
      exact h l hl
    rw [runOn_acknowledge]
    exact m.chip.get_latched_clearEdges_of_notMem hnot
  case frame =>
    obtain ⟨events, h⟩ := m.chip.exists_clearEdges (ofPins c.inputs).gpios.toList
    exact ⟨events, by rw [runOn_acknowledge, h]⟩

end EdgeLatch

end SensorBoard
