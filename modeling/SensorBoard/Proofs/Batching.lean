import SensorBoard.Proofs.History

/-!
# Edges that come together

One snapshot can show edges on several lines, rises and falls mixed. The lines are then stamped and
measured one after the other, while what changed is told from the snapshot before. So nothing may
depend on which line comes first, or on the moment at which the new snapshot takes the old one's
place.

* `Capture.metered`: a run with the readings of the counter on record.
* `Singly`: the same edges as snapshots of one line each, in a given order.
* `Padded`: the same events with snapshots in between that repeat the levels.
* `Capture.record_record`: two snapshots at one count are the second, unless it takes something
  back.
* `Capture.orderFree`: **a snapshot is its edges one by one, in any order**, and repeated levels
  change nothing and read no counter.
-/

namespace SensorBoard

/-! ## Snapshots of one line -/

/-- The levels with that of one line turned over. -/
def LineMask.flip (m : LineMask) (l : Line) : LineMask := m ^^^ .only l

namespace LineMask

theorem has_flip (m : LineMask) (l l' : Line) :
    (m.flip l).has l' = if l = l' then !m.has l' else m.has l' := by
  have hxor : (m.flip l).has l' = (m.has l' ^^ (only l).has l') := by simp [flip, has]
  rw [hxor, has_only]
  split <;> simp [*]

theorem flip_ne (m : LineMask) (l : Line) : m.flip l ≠ m := by
  intro h
  have hl := has_flip m l l
  rw [h, if_pos rfl] at hl
  cases hm : m.has l <;> rw [hm] at hl <;> cases hl

theorem has_foldl_flip {ls : List Line} (hls : ls.Nodup) (m : LineMask) (l : Line) :
    (ls.foldl flip m).has l = if l ∈ ls then !m.has l else m.has l := by
  induction ls generalizing m with
  | nil => rfl
  | cons k ls ih =>
    obtain ⟨hk, hls⟩ := List.nodup_cons.1 hls
    rw [List.foldl_cons, ih hls, has_flip]
    by_cases hkl : k = l
    · subst hkl
      rw [if_neg hk, if_pos rfl, if_pos List.mem_cons_self]
    · have hmem : l ∈ k :: ls ↔ l ∈ ls := by simp [Ne.symm hkl]
      simp only [if_neg hkl, hmem]

end LineMask

/-- Snapshots at one count, each of which turns over the next line of a list and no other one. The
upper bits of their bytes may be anything. -/
inductive Singly (now : UInt32) : LineMask → List Line → List PulseEvent → Prop
  | nil (m : LineMask) : Singly now m [] []
  | cons {m : LineMask} {l : Line} {ls : List Line} {es : List PulseEvent} (levels : UInt8)
    (turned : LineMask.ofByte levels = m.flip l) (rest : Singly now (m.flip l) ls es) :
    Singly now m (l :: ls) (.snapshot levels now :: es)

theorem exists_singly (now : UInt32) (m : LineMask) (ls : List Line) :
    ∃ es, Singly now m ls es := by
  induction ls generalizing m with
  | nil => exact ⟨[], .nil m⟩
  | cons l ls ih =>
    obtain ⟨es, hes⟩ := ih (m.flip l)
    exact ⟨_, .cons (m.flip l).toByte (LineMask.ofByte_toByte _) hes⟩

/-! ## Snapshots that repeat the levels -/

/-- The levels after an event, from those before it. -/
def PulseEvent.levelsAfter (m : LineMask) (e : PulseEvent) : LineMask :=
  (e.levels?.map LineMask.ofByte).getD m

/-- The same events, with snapshots in between that repeat the levels at their place. The upper
bits of these and the counter may be anything. -/
inductive Padded : LineMask → List PulseEvent → List PulseEvent → Prop
  | nil (m : LineMask) : Padded m [] []
  | keep {m : LineMask} {es es' : List PulseEvent} (e : PulseEvent)
    (rest : Padded (e.levelsAfter m) es es') : Padded m (e :: es) (e :: es')
  | again {m : LineMask} {es es' : List PulseEvent} (levels : UInt8) (now : UInt32)
    (same : LineMask.ofByte levels = m) (rest : Padded m es es') :
    Padded m es (.snapshot levels now :: es')

namespace Capture

/-! ## Readings of the counter -/

/-- A counter that stands at a value, and keeps record of its readings. -/
def meter (now : UInt32) : Step (List UInt32) UInt32 := modifyGet fun rs => (now, rs ++ [now])

def afterMetered (c : Capture) : PulseEvent → Step (List UInt32) Capture
  | .snapshot levels now => c.observe levels (meter now)
  | .recalibrate w => return c.recalibrate w

/-- The capture after a run of events, with the readings that were taken of the counter. -/
def metered (c : Capture) : List PulseEvent → Step (List UInt32) Capture
  | [] => return c
  | e :: es => do (← c.afterMetered e).metered es

variable {c : Capture} {m : LineMask} {now : UInt32} {es es' : List PulseEvent}

theorem runOn_metered_snapshot (c : Capture) (levels : UInt8) (now : UInt32) (es : List PulseEvent)
    (rs : List UInt32) :
    (c.metered (.snapshot levels now :: es)).runOn rs =
      ((c.record (.ofByte levels) now).metered es).runOn
        (if LineMask.ofByte levels = c.levels then rs else rs ++ [now]) := by
  have h := runOn_observe c levels (meter now) rs
  rw [after_snapshot] at h
  rw [metered, Step.runOn_bind, afterMetered, h]
  rfl

/-- **Keeping the record changes nothing.** -/
theorem metered_run (c : Capture) (es : List PulseEvent) (rs : List UInt32) :
    ((c.metered es).runOn rs).1 = c.run es := by
  induction es generalizing c rs with
  | nil => rfl
  | cons e es ih =>
    cases e with
    | snapshot levels now =>
      rw [runOn_metered_snapshot, ih, ← after_snapshot]
      rfl
    | recalibrate w => exact ih (c.recalibrate w) rs

/-- **Repeated levels** change nothing of a run, and no counter is read for them. -/
theorem metered_padded (h : Padded c.levels es es') (rs : List UInt32) :
    (c.metered es').runOn rs = (c.metered es).runOn rs := by
  generalize hm : c.levels = m at h
  induction h generalizing c rs with
  | nil m => rfl
  | @keep m es es' e rest ih =>
    subst hm
    cases e with
    | snapshot levels now =>
      rw [runOn_metered_snapshot, runOn_metered_snapshot]
      exact ih _ rfl
    | recalibrate w => exact ih (c := c.recalibrate w) rs rfl
  | @again m es es' levels now same rest ih =>
    subst hm
    rw [runOn_metered_snapshot, if_pos same, same, record_levels]
    exact ih rs rfl

/-! ## One edge after the other -/

/-- The lines whose levels a snapshot changes. -/
def changed (c : Capture) (m : LineMask) : List Line := Line.all.filter (c.changes m)

/-- Two snapshots at one count are the second, if a line that the first has changed stays as it is.
What the first one leaves of any other line is what was there before. -/
theorem record_record {n : LineMask} (h : ∀ l, c.changes m l = true → m.has l = n.has l) :
    (c.record m now).record n now = c.record n now := by
  have hline (l : Line) : c.levels.has l = m.has l ∨ m.has l = n.has l := by
    by_cases hl : c.levels.has l = m.has l
    · exact .inl hl
    · exact .inr (h l (bne_iff_ne.2 hl))
  have hchanges (l : Line) : (c.record m now).changes n l = (m.has l != n.has l) := rfl
  have hstamps : ((c.record m now).record n now).stamps = (c.record n now).stamps := by
    refine PerLine.ext_get fun l => ?_
    rw [stamps_record, stamps_record, stamps_record, hchanges, changes, changes]
    rcases hline l with hl | hl
    · simp [hl]
    · simp [hl]
  have hwidths : ((c.record m now).record n now).widths = (c.record n now).widths := by
    refine PerLine.ext_get fun l => ?_
    have hlevels : (c.record m now).levels.has l = m.has l := rfl
    have hwindow : (c.record m now).window = c.window := rfl
    rw [widths_record, widths_record, widths_record, stamps_record]
    simp only [completes, changes, hlevels, hwindow]
    -- the second snapshot measures from the stamp that the first one left alone
    rcases hline l with hl | hl
    · simp [hl]
    · simp [hl]
  calc (c.record m now).record n now
      = { c with
          levels := n
          stamps := ((c.record m now).record n now).stamps
          widths := ((c.record m now).record n now).widths } := rfl
    _ = c.record n now := by rw [hstamps, hwidths]; rfl

/-- **Lines turned over one by one** add up, as long as none of them had changed before. -/
theorem metered_singly {ls : List Line} (h : Singly now m ls es) (hls : ls.Nodup)
    (hm : ∀ l ∈ ls, m.has l = c.levels.has l) (rs : List UInt32) :
    ((c.record m now).metered es).runOn rs =
      (c.record (ls.foldl LineMask.flip m) now, rs ++ List.replicate ls.length now) := by
  induction h generalizing rs with
  | nil m => rw [List.length_nil, List.replicate_zero, List.append_nil]; rfl
  | @cons m l ls es levels turned rest ih =>
    obtain ⟨hl, hls⟩ := List.nodup_cons.1 hls
    have hstep : (c.record m now).record (m.flip l) now = c.record (m.flip l) now := by
      refine record_record fun k hk => ?_
      rw [LineMask.has_flip, if_neg]
      rintro rfl
      exact bne_iff_ne.1 hk (hm l List.mem_cons_self).symm
    have hrest : ∀ k ∈ ls, (m.flip l).has k = c.levels.has k := by
      intro k hk
      rw [LineMask.has_flip, if_neg (by rintro rfl; exact hl hk)]
      exact hm k (List.mem_cons_of_mem l hk)
    have hne : m.flip l ≠ (c.record m now).levels := LineMask.flip_ne m l
    rw [runOn_metered_snapshot, turned, if_neg hne, hstep, ih hls hrest, List.append_assoc]
    rfl

theorem mem_changed {l : Line} : l ∈ c.changed m ↔ c.levels.has l ≠ m.has l := by
  rw [changed, List.mem_filter, changes, bne_iff_ne]
  exact and_iff_right l.mem_all

theorem changed_eq_nil_iff : c.changed m = [] ↔ m = c.levels := by
  rw [List.eq_nil_iff_forall_not_mem]
  constructor
  · intro h
    refine LineMask.ext_has fun l => ?_
    exact (Decidable.not_not.1 (mt mem_changed.2 (h l))).symm
  · rintro rfl l hl
    exact mem_changed.1 hl rfl

/-- Turning over the changed lines, in any order, comes to the snapshot that changed them. -/
theorem foldl_flip_changed {ls : List Line} (h : ls.Perm (c.changed m)) :
    ls.Nodup ∧ ls.foldl LineMask.flip c.levels = m := by
  have hnodup : ls.Nodup := h.nodup_iff.2 (List.Pairwise.filter _ (by decide))
  refine ⟨hnodup, LineMask.ext_has fun l => ?_⟩
  have hmem : l ∈ ls ↔ c.levels.has l ≠ m.has l := h.mem_iff.trans mem_changed
  rw [LineMask.has_foldl_flip hnodup]
  by_cases hl : c.levels.has l = m.has l
  · rw [if_neg (fun hin => hmem.1 hin hl), hl]
  · rw [if_pos (hmem.2 hl)]
    cases hc : c.levels.has l <;> cases hm : m.has l <;> simp_all

/-- How edges may be gathered in snapshots, from a state of the capture on. -/
structure OrderFree (c : Capture) : Prop where
  /-- A snapshot reads the counter once if the level of a line has changed, and else not at all. -/
  reading : ∀ levels now, (c.metered [.snapshot levels now]).runOn [] =
    (c.after (.snapshot levels now),
      if c.changed (.ofByte levels) = [] then [] else [now])
  /-- Lines can be turned over one by one in any order. -/
  possible : ∀ now ls, ∃ es, Singly now c.levels ls es
  /-- If these are the lines that a snapshot changes, they leave the state that the one snapshot
  leaves, whatever snapshots of repeated levels come in between, with one reading of the counter for
  each line. -/
  singly : ∀ levels now ls, ls.Perm (c.changed (.ofByte levels)) →
    ∀ es, Singly now c.levels ls es → ∀ es', Padded c.levels es es' →
      (c.metered es').runOn [] = (c.after (.snapshot levels now), List.replicate ls.length now)
  /-- Into any run snapshots of repeated levels can be put anywhere, without a change of its end or
  of the readings. -/
  padded : ∀ es es', Padded c.levels es es' → (c.metered es').runOn [] = (c.metered es).runOn []
  /-- A run with its readings on record is the run. -/
  run : ∀ es, ((c.metered es).runOn []).1 = c.run es

/-- **The edges of a snapshot are free in their order.** This holds of every state, so also of each
that a run of snapshots and recalibrations leads to. -/
theorem orderFree (c : Capture) : OrderFree c where
  reading levels now := by
    rw [runOn_metered_snapshot, after_snapshot]
    simp only [changed_eq_nil_iff]
    rfl
  possible now ls := exists_singly now c.levels ls
  singly levels now ls hls es hes es' hpad := by
    obtain ⟨hnodup, hfold⟩ := foldl_flip_changed hls
    have h := metered_singly hes hnodup (fun _ _ => rfl) []
    rw [record_levels, hfold, List.nil_append] at h
    rw [metered_padded hpad, h, after_snapshot]
  padded _ _ h := metered_padded h []
  run es := metered_run c es []

/-- Line 2 falls and line 3 rises, together and one after the other, with repeated levels between. -/
example :
    let c := (start .reference).after (.snapshot 0b0110 100)
    c.run [.snapshot 0x3e 80100, .snapshot 0xae 7, .snapshot 0xca 80100] =
      c.run [.snapshot 0b1010 80100] := by
  decide

end Capture

end SensorBoard
