import SensorBoard.Pulse.Capture

/-!
# Pulse widths from the history

The capture remembers one stamp and one width per line. What it should show is defined by all that
was ever snapshot, so this module keeps the whole history and compares.

* `Capture.run`: the capture after snapshots and recalibrations, one after the other.
* `batches`: the same snapshots as an onlooker sees them, each with the one before it and the window
  in force.
* `LastPulse`: the last fall of a line in a history, and the latest rise before it.
* `Follows.run`: the invariant of a run. The point is that a line that is high has been stamped at
  its own latest rise, whatever the other lines did since.
* `run_recounts`: **the levels and widths are those of the history**, over every window and sequence
  of events.
-/

namespace SensorBoard

inductive PulseEvent
  /-- The inputs change: a byte of levels, and the counter at that moment. -/
  | snapshot (levels : UInt8) (now : UInt32)
  | recalibrate (w : Window)

def PulseEvent.levels? : PulseEvent → Option UInt8
  | snapshot levels _ => some levels
  | recalibrate _ => none

namespace Capture

def after (c : Capture) : PulseEvent → Capture
  | .snapshot levels now => Id.run (c.observe levels (pure now))
  | .recalibrate w => c.recalibrate w

def run (c : Capture) (es : List PulseEvent) : Capture := es.foldl after c

/-- A snapshot of the same levels leaves the capture as it is, whatever the counter. -/
theorem record_levels (c : Capture) (now : UInt32) : c.record c.levels now = c := by
  have hs : (c.record c.levels now).stamps = c.stamps := PerLine.ext_get fun l => by simp [changes]
  have hw : (c.record c.levels now).widths = c.widths :=
    PerLine.ext_get fun l => by simp [completes, changes]
  calc c.record c.levels now
      = { c with stamps := (c.record c.levels now).stamps
                 widths := (c.record c.levels now).widths } := rfl
    _ = c := by rw [hs, hw]

theorem after_snapshot (c : Capture) (levels : UInt8) (now : UInt32) :
    c.after (.snapshot levels now) = c.record (.ofByte levels) now := by
  show Id.run (c.observe levels (pure now)) = _
  unfold observe
  by_cases h : LineMask.ofByte levels = c.levels
  · rw [if_pos h, h, record_levels]; rfl
  · rw [if_neg h]; rfl

/-- **A snapshot in a world** is a snapshot with what the counter there reads; the world changes
only if the counter is read. -/
theorem runOn_observe {σ : Type} (c : Capture) (levels : UInt8) (counter : Step σ UInt32) (w : σ) :
    (c.observe levels counter).runOn w =
      (c.after (.snapshot levels (counter.runOn w).1),
        if LineMask.ofByte levels = c.levels then w else (counter.runOn w).2) := by
  rw [after_snapshot]
  unfold observe
  by_cases h : LineMask.ofByte levels = c.levels
  · rw [if_pos h, if_pos h, h, record_levels]; rfl
  · rw [if_neg h, if_neg h]; rfl

end Capture

/-! ## The history of a run -/

structure Batch where
  window : Window
  /-- The levels of the snapshot before; before the first one all lines are low. -/
  before : LineMask
  after : LineMask
  now : UInt32

namespace Batch

def Rises (b : Batch) (l : Line) : Prop := b.before.has l = false ∧ b.after.has l = true

def Falls (b : Batch) (l : Line) : Prop := b.before.has l = true ∧ b.after.has l = false

end Batch

/-- The snapshots among events, from a window in force and a snapshot before. -/
def batches (w : Window) (before : LineMask) : List PulseEvent → List Batch
  | [] => []
  | .snapshot levels now :: es =>
    ⟨w, before, .ofByte levels, now⟩ :: batches w (.ofByte levels) es
  | .recalibrate w' :: es => batches w' before es

/-- The last fall of a line, and the latest rise before it. -/
def LastPulse (l : Line) (bs : List Batch) (rise fall : Batch) : Prop :=
  ∃ earlier between later, bs = earlier ++ rise :: (between ++ fall :: later) ∧
    rise.Rises l ∧ fall.Falls l ∧ (∀ b ∈ between, ¬b.Rises l) ∧ ∀ b ∈ later, ¬b.Falls l

/-- A change of one line, with all that its timing depends on. -/
inductive LineChange
  | rise (now : UInt32)
  | fall (now : UInt32) (w : Window)

def Batch.change (b : Batch) (l : Line) : Option LineChange :=
  match b.before.has l, b.after.has l with
  | false, true => some (.rise b.now)
  | true, false => some (.fall b.now b.window)
  | _, _ => none

/-- The changes of a line in a history. What is left out are the other lines, the snapshots in which
this one is unchanged, and the windows that were in force while it did not fall. -/
def lineChanges (l : Line) (bs : List Batch) : List LineChange := bs.filterMap (·.change l)

/-- The stamp and the width of a line after a change of it. -/
def LineChange.apply (l : Line) (s : UInt32 × UInt16) : LineChange → UInt32 × UInt16
  | rise now => (now, s.2)
  | fall now w => (now, if l.carriesPulses then w.width (now - s.1) else s.2)

theorem LastPulse.append {l : Line} {bs : List Batch} {rise fall b : Batch}
    (h : LastPulse l bs rise fall) (hb : ¬b.Falls l) : LastPulse l (bs ++ [b]) rise fall := by
  obtain ⟨earlier, between, later, rfl, hr, hf, hbetween, hlater⟩ := h
  refine ⟨earlier, between, later ++ [b], by simp, hr, hf, hbetween, ?_⟩
  intro x hx
  rcases List.mem_append.1 hx with hx | hx
  · exact hlater x hx
  · rw [List.mem_singleton.1 hx]; exact hb

/-- A list is split in only one way at its last element with a property. -/
theorem split_last_unique {α : Type} {P : α → Prop} {xs ys xs' ys' : List α} {a a' : α}
    (h : xs ++ a :: ys = xs' ++ a' :: ys') (ha : P a) (ha' : P a') (hys : ∀ b ∈ ys, ¬P b)
    (hys' : ∀ b ∈ ys', ¬P b) : xs = xs' ∧ a = a' := by
  induction xs generalizing xs' with
  | nil =>
    cases xs' with
    | nil => exact ⟨rfl, (List.cons.inj h).1⟩
    | cons x xs' =>
      obtain ⟨-, hrest⟩ := List.cons.inj h
      exact absurd ha' (hys a' (by rw [hrest]; simp))
  | cons x xs ih =>
    cases xs' with
    | nil =>
      obtain ⟨-, hrest⟩ := List.cons.inj h
      exact absurd ha (hys' a (by rw [← hrest]; simp))
    | cons x' xs' =>
      obtain ⟨rfl, hrest⟩ := List.cons.inj h
      obtain ⟨rfl, hsame⟩ := ih hrest
      exact ⟨rfl, hsame⟩

/-- **A history has at most one last pulse of a line.** -/
theorem LastPulse.unique {l : Line} {bs : List Batch} {rise fall rise' fall' : Batch}
    (h : LastPulse l bs rise fall) (h' : LastPulse l bs rise' fall') :
    rise = rise' ∧ fall = fall' := by
  obtain ⟨earlier, between, later, hbs, hr, hf, hbetween, hlater⟩ := h
  obtain ⟨earlier', between', later', hbs', hr', hf', hbetween', hlater'⟩ := h'
  have hsplit : (earlier ++ rise :: between) ++ fall :: later =
      (earlier' ++ rise' :: between') ++ fall' :: later' := by
    rw [List.append_assoc, List.append_assoc]
    exact hbs.symm.trans hbs'
  obtain ⟨hbefore, hfall⟩ :=
    split_last_unique (P := fun b => b.Falls l) hsplit hf hf' hlater hlater'
  obtain ⟨-, hrise⟩ :=
    split_last_unique (P := fun b => b.Rises l) hbefore hr hr' hbetween hbetween'
  exact ⟨hrise, hfall⟩

/-! ## The invariant -/

namespace Capture

/-- What the capture holds of a history. -/
structure Follows (c : Capture) (bs : List Batch) : Prop where
  /-- A line that is high was stamped at its latest rise, and has not changed since. -/
  stamped : ∀ l, c.levels.has l = true → ∃ earlier rise later, bs = earlier ++ rise :: later ∧
    rise.Rises l ∧ (∀ b ∈ later, ¬b.Rises l ∧ ¬b.Falls l) ∧ c.stamps.get l = rise.now
  unmeasured : ∀ l, (l.carriesPulses = true → ∀ b ∈ bs, ¬b.Falls l) → c.widths.get l = 0
  measured : ∀ l, l.carriesPulses = true → (∃ b ∈ bs, b.Falls l) → ∃ rise fall,
    LastPulse l bs rise fall ∧ c.widths.get l = fall.window.width (fall.now - rise.now)
  /-- Stamp and width of a line are determined by the changes of that line. -/
  replayed : ∀ l, (c.stamps.get l, c.widths.get l) =
    (lineChanges l bs).foldl (LineChange.apply l) (0, 0)

variable {c : Capture} {bs : List Batch}

theorem follows_start (w : Window) : Follows (start w) [] where
  stamped l h := by
    change (0 : LineMask).has l = true at h
    rw [LineMask.has_zero] at h
    cases h
  unmeasured l _ := by simp [start]
  measured l _ h := by obtain ⟨b, hb, -⟩ := h; cases hb
  replayed l := by simp [start, lineChanges]

theorem Follows.recalibrate (h : Follows c bs) (w : Window) : Follows (c.recalibrate w) bs :=
  ⟨h.stamped, h.unmeasured, h.measured, h.replayed⟩

def batch (c : Capture) (m : LineMask) (now : UInt32) : Batch := ⟨c.window, c.levels, m, now⟩

theorem rises_batch {m : LineMask} {now : UInt32} {l : Line} :
    (c.batch m now).Rises l ↔ c.levels.has l = false ∧ m.has l = true := Iff.rfl

theorem falls_batch {m : LineMask} {now : UInt32} {l : Line} :
    (c.batch m now).Falls l ↔ c.levels.has l = true ∧ m.has l = false := Iff.rfl

theorem completes_iff {m : LineMask} {now : UInt32} {l : Line} :
    c.completes m l = true ↔ l.carriesPulses = true ∧ (c.batch m now).Falls l := by
  rw [falls_batch, completes, changes]
  cases c.levels.has l <;> cases m.has l <;> simp

theorem widths_record_of_not_falls {m : LineMask} {now : UInt32} {l : Line}
    (hl : ¬(l.carriesPulses = true ∧ (c.batch m now).Falls l)) :
    (c.record m now).widths.get l = c.widths.get l := by
  rw [widths_record, if_neg (mt completes_iff.1 hl)]

/-- A line that is high after a snapshot has just risen, or nothing about it is new. -/
theorem Follows.stamped_record (h : Follows c bs) (m : LineMask) (now : UInt32) {l : Line}
    (hm : m.has l = true) : ∃ earlier rise later,
      bs ++ [c.batch m now] = earlier ++ rise :: later ∧ rise.Rises l ∧
        (∀ b ∈ later, ¬b.Rises l ∧ ¬b.Falls l) ∧
          (c.record m now).stamps.get l = rise.now := by
  cases hlev : c.levels.has l with
  -- the line stays high, and its latest rise is still the latest
  | true =>
    obtain ⟨earlier, rise, later, hbs, hr, hlater, hstamp⟩ := h.stamped l hlev
    refine ⟨earlier, rise, later ++ [c.batch m now], by rw [hbs]; simp, hr, ?_, ?_⟩
    · intro x hx
      rcases List.mem_append.1 hx with hx | hx
      · exact hlater x hx
      · rw [List.mem_singleton.1 hx, rises_batch, falls_batch, hlev, hm]
        simp
    · rw [stamps_record, changes, hlev, hm, ← hstamp]
      rfl
  | false =>
    refine ⟨bs, c.batch m now, [], rfl, ⟨hlev, hm⟩, by simp, ?_⟩
    rw [stamps_record, changes, hlev, hm]
    rfl

/-- A pulse line that has just fallen is measured from its stamp, which is that of its latest rise;
on any other line the last pulse is still the last one. -/
theorem Follows.measured_record (h : Follows c bs) (m : LineMask) (now : UInt32) {l : Line}
    (hcar : l.carriesPulses = true) (hfall : ∃ b ∈ bs ++ [c.batch m now], b.Falls l) :
    ∃ rise fall, LastPulse l (bs ++ [c.batch m now]) rise fall ∧
      (c.record m now).widths.get l = fall.window.width (fall.now - rise.now) := by
  by_cases hf : (c.batch m now).Falls l
  -- the line was high until now, so the stamp that it is measured from is that of its latest rise
  · obtain ⟨earlier, rise, later, hbs, hr, hlater, hstamp⟩ := h.stamped l hf.1
    refine ⟨rise, c.batch m now, ⟨earlier, later, [], by rw [hbs]; simp, hr, hf, ?_, by simp⟩, ?_⟩
    · exact fun x hx => (hlater x hx).1
    · rw [widths_record, if_pos (completes_iff.2 ⟨hcar, hf⟩), hstamp]
      rfl
  · obtain ⟨x, hx, hxf⟩ := hfall
    have hxbs : x ∈ bs := by
      rcases List.mem_append.1 hx with hx | hx
      · exact hx
      · rw [List.mem_singleton.1 hx] at hxf
        exact absurd hxf hf
    obtain ⟨rise, fall, hp, hw⟩ := h.measured l hcar ⟨x, hxbs, hxf⟩
    exact ⟨rise, fall, hp.append hf, by rw [widths_record_of_not_falls fun h => hf h.2, hw]⟩

/-- A line takes part in a snapshot just by its change there. -/
theorem replay_record (m : LineMask) (now : UInt32) (l : Line) :
    ((c.record m now).stamps.get l, (c.record m now).widths.get l) =
      (lineChanges l [c.batch m now]).foldl (LineChange.apply l)
        (c.stamps.get l, c.widths.get l) := by
  rw [stamps_record, widths_record]
  unfold completes changes lineChanges Batch.change batch
  cases hlev : c.levels.has l <;> cases hm : m.has l <;> cases hcar : l.carriesPulses <;>
    simp [LineChange.apply, hlev, hm, hcar]

/-- **A snapshot keeps the invariant.** -/
theorem Follows.record (h : Follows c bs) (m : LineMask) (now : UInt32) :
    Follows (c.record m now) (bs ++ [c.batch m now]) where
  stamped l hm := h.stamped_record m now hm
  unmeasured l hl := by
    have hkeep : ¬(l.carriesPulses = true ∧ (c.batch m now).Falls l) := fun hf =>
      hl hf.1 (c.batch m now) (by simp) hf.2
    rw [widths_record_of_not_falls hkeep]
    exact h.unmeasured l fun hcar x hx => hl hcar x (by simp [hx])
  measured l hcar hfall := h.measured_record m now hcar hfall
  replayed l := by
    have hr := h.replayed l
    rw [lineChanges, List.filterMap_append, List.foldl_append, ← lineChanges, ← lineChanges, ← hr]
    exact replay_record m now l

/-- **The invariant of a run**: the capture follows all that was snapshot. -/
theorem Follows.run (h : Follows c bs) (es : List PulseEvent) :
    Follows (c.run es) (bs ++ batches c.window c.levels es) := by
  induction es generalizing c bs with
  | nil => rwa [batches, List.append_nil]
  | cons e es ih =>
    cases e with
    | snapshot levels now =>
      have hs := ih (h.record (.ofByte levels) now)
      rw [List.append_assoc] at hs
      rw [Capture.run, List.foldl_cons, after_snapshot]
      exact hs
    | recalibrate w => exact ih (h.recalibrate w)

theorem widths_run (w : Window) (es : List PulseEvent) {l : Line} {rise fall : Batch}
    (hcar : l.carriesPulses = true) (hp : LastPulse l (batches w 0 es) rise fall) :
    ((start w).run es).widths.get l = fall.window.width (fall.now - rise.now) := by
  have hfall : ∃ b ∈ batches w 0 es, b.Falls l := by
    obtain ⟨earlier, between, later, hbs, -, hf, -⟩ := hp
    exact ⟨fall, by rw [hbs]; simp, hf⟩
  have hfollows : Follows ((start w).run es) (batches w 0 es) := (follows_start w).run es
  obtain ⟨rise', fall', hp', hw⟩ := hfollows.measured l hcar hfall
  obtain ⟨rfl, rfl⟩ := hp.unique hp'
  exact hw

theorem levels_run (c : Capture) (es : List PulseEvent) :
    (c.run es).levels =
      ((es.filterMap PulseEvent.levels?).getLast?.map LineMask.ofByte).getD c.levels := by
  induction es generalizing c with
  | nil => rfl
  | cons e es ih =>
    rw [run, List.foldl_cons]
    refine (ih (c.after e)).trans ?_
    cases e with
    | snapshot levels now =>
      have hcons : (PulseEvent.snapshot levels now :: es).filterMap PulseEvent.levels? =
          levels :: es.filterMap PulseEvent.levels? := rfl
      rw [after_snapshot, hcons, List.getLast?_cons]
      cases (es.filterMap PulseEvent.levels?).getLast? <;> rfl
    | recalibrate w => rfl

/-- What a capture shows of the history that it was started on. -/
structure Recounts (c : Capture) (w : Window) (es : List PulseEvent) : Prop where
  /-- The levels are the low four bits of the last snapshot's byte. -/
  levels : c.levels = ((es.filterMap PulseEvent.levels?).getLast?.map LineMask.ofByte).getD 0
  /-- The presence detect has no width. -/
  presence : c.widths.get .gp0 = 0
  /-- A line that never fell has width 0. -/
  unmeasured : ∀ l, (∀ b ∈ batches w 0 es, ¬b.Falls l) → c.widths.get l = 0
  /-- A pulse line that fell shows its last pulse, by the window in force at the fall. -/
  measured : ∀ l, l.carriesPulses = true → (∃ b ∈ batches w 0 es, b.Falls l) → ∃ rise fall,
    LastPulse l (batches w 0 es) rise fall ∧
      c.widths.get l = fall.window.width (fall.now - rise.now)
  /-- Nothing else affects a line: another history with the same changes of it gives the same
  width. -/
  unaffected : ∀ l w' es', lineChanges l (batches w' 0 es') = lineChanges l (batches w 0 es) →
    ((start w').run es').widths.get l = c.widths.get l

/-- **Pulse capture shows what its history says**, for every window and every sequence of
events. -/
theorem run_recounts (w : Window) (es : List PulseEvent) : Recounts ((start w).run es) w es := by
  have hrun : ∀ w es, Follows ((start w).run es) (batches w 0 es) := fun w es =>
    (follows_start w).run es
  have h := hrun w es
  refine ⟨levels_run _ es, ?_, ?_, h.measured, ?_⟩
  · exact h.unmeasured .gp0 fun hcar => by cases hcar
  · exact fun l hl => h.unmeasured l fun _ => hl
  · intro l w' es' heq
    have h₁ := (hrun w' es').replayed l
    rw [heq, ← h.replayed l] at h₁
    exact (Prod.mk.inj h₁).2

end Capture

end SensorBoard
