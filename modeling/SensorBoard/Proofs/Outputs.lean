import SensorBoard.Chip.Machine
import SensorBoard.Proofs.Published

/-!
# The outputs and their wires

A mask that is applied already is not written again, so the outputs are right only if the mask that
the controller remembers is the one on the wires. Nothing checks this: the levels come from the
last time they were written, an input may be the wire of an output, and the world outside may drive
any wire at any time.

* `Wired`: a world whose pins are on wires; `Machine` is one.
* `Controller.Occasion`, `Controller.lived`: the calls of a controller and the changes from outside,
  in any order, from the moment it takes over its lines.
* `Controller.outputs_follow`: **the outputs follow the applied mask**, and an input on the wire of
  its output reads it back, as long as nobody else drives that wire.
-/

namespace SensorBoard

variable {O I W σ : Type}

/-! ## Pins on wires -/

/-- A world whose pins are on wires: driving a pin sets the level of its wire and of no other one,
and reading a pin gives the level of its wire. -/
class Wired (O I σ : Type) (W : outParam Type) [OutputPin O σ] [InputPin I σ] [Logger σ] where
  output : O → W
  input : I → W
  level : σ → W → Bool
  level_driven (pin : O) (high : Bool) (w : σ) :
    level ((OutputPin.drive pin high).runOn w).2 (output pin) = high
  level_beside (pin : O) (high : Bool) (w : σ) {x : W} (h : output pin ≠ x) :
    level ((OutputPin.drive pin high).runOn w).2 x = level w x
  isHigh_eq (pin : I) (w : σ) : ((InputPin.isHigh pin).runOn w).1 = level w (input pin)
  level_isHigh (pin : I) (w : σ) : level ((InputPin.isHigh pin).runOn w).2 = level w
  level_log (m : Message) (w : σ) : level ((log m).runOn w).2 = level w

/-- A record of the calls does not touch the wires. -/
instance [OutputPin O σ] [InputPin I σ] [Logger σ] [v : Wired O I σ W] :
    Wired O I (Attended O I σ) W where
  output := v.output
  input := v.input
  level a := v.level a.world
  level_driven pin high a := v.level_driven pin high a.world
  level_beside pin high a := v.level_beside pin high a.world
  isHigh_eq pin a := v.isHigh_eq pin a.world
  level_isHigh pin a := v.level_isHigh pin a.world
  level_log m a := v.level_log m a.world

namespace Chip

theorem getLsbD_wireBit (g g' : Gpio) :
    ((1 : BitVec 32) <<< g.val).getLsbD g' = decide (g = g') := by
  have hlt : g'.val < 32 := by omega
  by_cases h : g = g'
  · subst h
    simp [hlt]
  · have hne : g.val ≠ g'.val := fun hv => h (Fin.ext hv)
    simp [h]
    omega

/-- Setting one wire leaves the others. -/
theorem getLsbD_setWire (c : Chip) (g g' : Gpio) (high : Bool) :
    (c.setWire g high).wires.getLsbD g' = if g = g' then high else c.wires.getLsbD g' := by
  have hlt : g'.val < 32 := by omega
  cases high with
  | false =>
    change (c.wires &&& ~~~((1 : BitVec 32) <<< g.val)).getLsbD g' = _
    rw [BitVec.getLsbD_and, BitVec.getLsbD_not, getLsbD_wireBit]
    by_cases h : g = g' <;> simp [h, hlt]
  | true =>
    change (c.wires ||| (1 : BitVec 32) <<< g.val).getLsbD g' = _
    rw [BitVec.getLsbD_or, getLsbD_wireBit]
    by_cases h : g = g' <;> simp [h]

end Chip

instance : Wired Pin Pin Machine Gpio where
  output := Pin.gpio
  input := Pin.gpio
  level m g := m.chip.wires.getLsbD g
  level_driven _ high m := (m.chip.getLsbD_setWire _ _ high).trans (if_pos rfl)
  level_beside _ high m _ h := (m.chip.getLsbD_setWire _ _ high).trans (if_neg h)
  isHigh_eq _ _ := rfl
  level_isHigh _ _ := rfl
  level_log _ _ := rfl

/-! ## Writing and reading all lines -/

namespace Controller

section

variable [OutputPin O σ] [InputPin I σ] [Logger σ] [v : Wired O I σ W]

/-- No two outputs are on one wire. -/
def Apart (outputs : PerLine O) : Prop :=
  ∀ l l' : Line, v.output (outputs.get l) = v.output (outputs.get l') → l = l'

theorem level_drives_beside (outputs : PerLine O) (m : LineMask) {ls : List Line} {x : W}
    (h : ∀ l ∈ ls, v.output (outputs.get l) ≠ x) (w : σ) :
    v.level ((ls.forM fun l => OutputPin.drive (outputs.get l) (m.has l) : Step σ Unit).runOn w).2 x
      = v.level w x := by
  induction ls generalizing w with
  | nil => rfl
  | cons l ls ih =>
    obtain ⟨hl, hls⟩ := List.forall_mem_cons.1 h
    exact (ih hls _).trans (v.level_beside _ _ _ hl)

/-- **Driving all outputs leaves each at its bit**, whatever the levels were before. -/
theorem level_driveAll {outputs : PerLine O} (apart : Apart (v := v) outputs) (m : LineMask) (w : σ)
    (l : Line) :
    v.level ((driveAll outputs m).runOn w).2 (v.output (outputs.get l)) = m.has l := by
  have key (ls : List Line) (hls : ls.Nodup) (hl : l ∈ ls) (w : σ) :
      v.level ((ls.forM fun l => OutputPin.drive (outputs.get l) (m.has l) : Step σ Unit).runOn w).2
        (v.output (outputs.get l)) = m.has l := by
    induction ls generalizing w with
    | nil => cases hl
    | cons k ls ih =>
      obtain ⟨hk, hls⟩ := List.nodup_cons.1 hls
      rcases List.mem_cons.1 hl with rfl | hl
      · -- the outputs that follow are on other wires
        have hbeside : ∀ k ∈ ls, v.output (outputs.get k) ≠ v.output (outputs.get l) :=
          fun k' hk' hsame => hk (apart _ _ hsame ▸ hk')
        exact (level_drives_beside outputs m hbeside _).trans (v.level_driven _ _ _)
      · exact ih hls hl _
  exact key Line.all (by decide) l.mem_all w

theorem level_setOutputs {c : Controller O I} (apart : Apart (v := v) c.outputs) (mask : UInt8)
    {w : σ} (h : LineMask.ofByte mask ≠ c.applied) (l : Line) :
    v.level ((setOutputs mask).runOn ⟨c, w⟩).2.world (v.output (c.outputs.get l)) =
      (LineMask.ofByte mask).has l := by
  rw [runOn_setOutputs, if_neg h]
  exact level_driveAll apart _ _ l

/-- **Each bit that is read is the level of that input's wire.** -/
theorem has_readInputs (c : Controller O I) (w : σ) (l : Line) :
    (readInputs.runOn ⟨c, w⟩).1.has l = v.level w (v.input (c.inputs.get l)) := by
  rw [runOn_readInputs]
  simp only [LineMask.has_ofFn, senseAll, Step.runOn_bind, Step.runOn_pure]
  cases l <;> simp only [PerLine.get, v.isHigh_eq, v.level_isHigh]

theorem level_readInputs (c : Controller O I) (w : σ) :
    v.level (readInputs.runOn ⟨c, w⟩).2.world = v.level w := by
  rw [runOn_readInputs]
  simp only [senseAll, Step.runOn_bind, Step.runOn_pure, v.level_isHigh]

end

/-! ## Any history of a controller -/

/-- Something that happens to a controller or around it. -/
inductive Occasion (σ : Type)
  | set (mask : UInt8)
  | read
  /-- The world changes by itself. -/
  | outside (move : σ → σ)

def Occasion.mask? : Occasion σ → Option UInt8
  | .set mask => some mask
  | _ => none

/-- The low four bits of the last mask that was set, zero before any. -/
def lastSet (es : List (Occasion σ)) : LineMask :=
  (es.filterMap Occasion.mask?).getLast?.elim 0 LineMask.ofByte

variable [OutputPin O σ] [InputPin I σ] [Logger σ]

def Occasion.after (d : Held (Controller O I) (Attended O I σ)) :
    Occasion σ → Held (Controller O I) (Attended O I σ)
  | .set mask => ((setOutputs mask).runOn d).2
  | .read => (readInputs.runOn d).2
  | .outside move => ⟨d.own, { d.world with world := move d.world.world }⟩

/-- A controller that has just taken over its lines in a world. -/
def taken (outputs : PerLine O) (inputs : PerLine I) (w : σ) :
    Held (Controller O I) (Attended O I σ) :=
  let r := (configure outputs inputs).runOn ({ world := w } : Attended O I σ)
  ⟨r.1, r.2⟩

/-- The controller and its world after anything that happened, with a record of what it drove. -/
def lived (outputs : PerLine O) (inputs : PerLine I) (w : σ) (es : List (Occasion σ)) :
    Held (Controller O I) (Attended O I σ) :=
  es.foldl Occasion.after (taken outputs inputs w)

theorem own_after (d : Held (Controller O I) (Attended O I σ)) (e : Occasion σ) :
    (e.after d).own = { d.own with applied := e.mask?.elim d.own.applied LineMask.ofByte } := by
  cases e with
  | set mask => exact applied_setOutputs mask d
  | read => rfl
  | outside move => rfl

theorem own_foldl_after (d : Held (Controller O I) (Attended O I σ)) (es : List (Occasion σ)) :
    (es.foldl Occasion.after d).own =
      { d.own with
        applied := (es.filterMap Occasion.mask?).getLast?.elim d.own.applied LineMask.ofByte } := by
  induction es generalizing d with
  | nil => rfl
  | cons e es ih =>
    rw [List.foldl_cons, ih, own_after]
    cases he : e.mask? with
    | none => rw [List.filterMap_cons_none he]; rfl
    | some mask =>
      rw [List.filterMap_cons_some he, List.getLast?_cons]
      cases (es.filterMap Occasion.mask?).getLast? <;> rfl

/-- **The applied mask is the last one that was set**, and the lines stay the same. -/
theorem own_lived (outputs : PerLine O) (inputs : PerLine I) (w : σ) (es : List (Occasion σ)) :
    (lived outputs inputs w es).own = ⟨outputs, inputs, lastSet es⟩ :=
  own_foldl_after _ es

variable [v : Wired O I σ W]

/-- Nobody but the controller drives a wire. -/
def Occasion.Leaves (x : W) : Occasion σ → Prop
  | .outside move => ∀ w, v.level (move w) x = v.level w x
  | _ => True

/-- The wire of an output is at its bit of the applied mask. -/
def AtBit (d : Held (Controller O I) (Attended O I σ)) (l : Line) : Prop :=
  v.level d.world.world (v.output (d.own.outputs.get l)) = d.own.applied.has l

theorem atBit_after {d : Held (Controller O I) (Attended O I σ)}
    (apart : Apart (v := v) d.own.outputs) {l : Line} (h : AtBit (v := v) d l) {e : Occasion σ}
    (he : e.Leaves (v := v) (v.output (d.own.outputs.get l))) : AtBit (v := v) (e.after d) l := by
  rw [AtBit, own_after]
  cases e with
  | set mask =>
    by_cases hm : LineMask.ofByte mask = d.own.applied
    · -- nothing is written, and nothing has to be
      have hkept : Occasion.after d (.set mask) = d := by
        rw [Occasion.after, runOn_setOutputs, if_pos hm]
      rw [hkept]
      exact h.trans (congrArg (·.has l) hm.symm)
    · exact level_setOutputs (σ := Attended O I σ) apart mask hm l
  | read =>
    have hread := level_readInputs (σ := Attended O I σ) d.own d.world
    exact (congrFun hread _).trans h
  | outside move => exact (he d.world.world).trans h

/-- Whatever happened, as long as nobody else drove the wire. -/
theorem atBit_lived {outputs : PerLine O} (apart : Apart (v := v) outputs) (inputs : PerLine I)
    (w : σ) {es : List (Occasion σ)} {l : Line}
    (h : ∀ e ∈ es, e.Leaves (v := v) (v.output (outputs.get l))) :
    AtBit (v := v) (lived outputs inputs w es) l := by
  have key (d : Held (Controller O I) (Attended O I σ)) (hd : d.own.outputs = outputs)
      (hat : AtBit (v := v) d l) : AtBit (v := v) (es.foldl Occasion.after d) l := by
    induction es generalizing d with
    | nil => exact hat
    | cons e es ih =>
      obtain ⟨he, hes⟩ := List.forall_mem_cons.1 h
      subst hd
      exact ih hes _ (by rw [own_after]) (atBit_after apart hat he)
  -- taking over drives every output low
  have apart' : Apart (I := I) (σ := Attended O I σ) outputs := apart
  have hlow := level_driveAll apart' 0 ⟨w, []⟩ l
  exact key _ rfl hlow

/-- What holds of a controller and its wires after a history. -/
structure Follows (outputs : PerLine O) (inputs : PerLine I) (w : σ) (es : List (Occasion σ))
    (d : Held (Controller O I) (Attended O I σ)) : Prop where
  applied : d.own.applied = lastSet es
  /-- Setting a mask tells that nothing changed just if the mask is applied already. -/
  told (mask : UInt8) :
    ((setOutputs mask).runOn d).1 = false ↔ LineMask.ofByte mask = d.own.applied
  /-- Such a mask touches nothing. -/
  skipped (mask : UInt8) (h : LineMask.ofByte mask = d.own.applied) :
    ((setOutputs mask).runOn d).2 = d
  /-- Any other one is written to all pins. -/
  written (mask : UInt8) (h : LineMask.ofByte mask ≠ d.own.applied) :
    ((setOutputs mask).runOn d).2.world.deeds =
      d.world.deeds ++ Line.all.map fun l => .drove (outputs.get l) ((LineMask.ofByte mask).has l)
  /-- It leaves each wire at its bit, whatever the levels were. -/
  driven (mask : UInt8) (h : LineMask.ofByte mask ≠ d.own.applied) (l : Line) :
    v.level ((setOutputs mask).runOn d).2.world.world (v.output (outputs.get l)) =
      (LineMask.ofByte mask).has l
  /-- A wire that nobody else drives is at its bit of the applied mask. -/
  level (l : Line) (h : ∀ e ∈ es, e.Leaves (v := v) (v.output (outputs.get l))) :
    v.level d.world.world (v.output (outputs.get l)) = d.own.applied.has l
  read (l : Line) :
    (readInputs.runOn d).1.has l = v.level d.world.world (v.input (inputs.get l))
  /-- An input on the wire of its output reads back the applied bit. -/
  loopedBack (l : Line) (same : v.input (inputs.get l) = v.output (outputs.get l))
    (h : ∀ e ∈ es, e.Leaves (v := v) (v.output (outputs.get l))) :
    (readInputs.runOn d).1.has l = d.own.applied.has l

/-- **The output lines follow the applied mask**: from any levels at the start, over any history of
calls and of changes from outside. -/
theorem outputs_follow {outputs : PerLine O} (apart : Apart (v := v) outputs) (inputs : PerLine I)
    (w : σ) (es : List (Occasion σ)) :
    Follows (v := v) outputs inputs w es (lived outputs inputs w es) := by
  have hown := own_lived outputs inputs w es
  have hlevel (l : Line) (h : ∀ e ∈ es, e.Leaves (v := v) (v.output (outputs.get l))) :=
    atBit_lived apart inputs w h
  generalize lived outputs inputs w es = d at *
  obtain ⟨c, a⟩ := d
  obtain rfl : c = ⟨outputs, inputs, lastSet es⟩ := hown
  have hread (l : Line) := has_readInputs (σ := Attended O I σ) ⟨outputs, inputs, lastSet es⟩ a l
  constructor
  case applied => rfl
  case told =>
    intro mask
    rw [runOn_setOutputs]
    split <;> simp [*]
  case skipped =>
    intro mask h
    rw [runOn_setOutputs, if_pos h]
  case written =>
    intro mask h
    rw [Attended.deeds_setOutputs, Attended.drives, if_neg h]
  case driven => exact fun mask h l => level_setOutputs (σ := Attended O I σ) apart mask h l
  case level => exact hlevel
  case read => exact hread
  case loopedBack =>
    intro l same h
    have hsame := congrArg (v.level a.world) same
    exact (hread l).trans (hsame.trans (hlevel l h))

/-- Two of four pads read back, all wires high at the start, and a third input pulled low from
outside. -/
theorem outputs_follow_loopback :
    let outputs : PerLine Pin := ⟨{ gpio := 2 }, { gpio := 3 }, { gpio := 4 }, { gpio := 5 }⟩
    let inputs : PerLine Pin := ⟨{ gpio := 2 }, { gpio := 7 }, { gpio := 4 }, { gpio := 9 }⟩
    let es : List (Occasion Machine) :=
      [.set 0xf3, .outside fun m => m.onChip (·.setWire 7 false), .read, .set 0x5c]
    let d := lived outputs inputs { chip := { wires := -1 } } es
    Apart (I := Pin) (σ := Machine) outputs ∧
      (∀ l, ∀ e ∈ es, e.Leaves (O := Pin) (I := Pin) (outputs.get l).gpio) ∧
      Follows outputs inputs { chip := { wires := -1 } } es d ∧
      d.own.applied = 0xc ∧ (readInputs.runOn d).1.has .gp0 = false ∧
      (readInputs.runOn d).1.has .gp2 = true := by
  intro outputs inputs es d
  have apart : Apart (I := Pin) (σ := Machine) outputs := by
    intro l l' h
    cases l <;> cases l' <;> first | rfl | cases h
  have leaves (l : Line) : ∀ e ∈ es, e.Leaves (O := Pin) (I := Pin) (outputs.get l).gpio := by
    intro e he
    simp only [es, List.mem_cons, List.not_mem_nil, or_false] at he
    rcases he with rfl | rfl | rfl | rfl
    · trivial
    · intro m
      have hne : (7 : Gpio) ≠ (outputs.get l).gpio := by cases l <;> decide
      exact (m.chip.getLsbD_setWire 7 _ false).trans (if_neg hne)
    · trivial
    · trivial
  have h := outputs_follow apart inputs { chip := { wires := -1 } } es
  have happlied : d.own.applied = 0xc := h.applied
  refine ⟨apart, leaves, h, happlied, ?_, ?_⟩
  · rw [h.loopedBack .gp0 rfl (leaves .gp0), happlied]
    rfl
  · rw [h.loopedBack .gp2 rfl (leaves .gp2), happlied]
    rfl

end Controller

end SensorBoard
