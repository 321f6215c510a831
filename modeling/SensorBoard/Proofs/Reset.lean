import SensorBoard.Proofs.Delivery

/-!
# A reset forgets the past

A reset does not clear the ring: the samples from before stay in it until they are overwritten. What
keeps them from being read again is that the sampler starts at the first slot as the reader does,
and that the reader asks for no slot before the sampler has come by. So nothing that was there
before a reset can be told from what is read after it, and two readers that had nothing in common
are the same from then on.

* `answer`: what an acquisition gives, said of the cursor and of what has come, and of nothing else.
* `acquire_answers`: **a level reader gives this answer**, whatever else the ring holds, also when
  more samples have come than the count can tell.
* `Beside`: two runs, step by step beside each other.
* `reset_forgets`: **after a fault two readers give the same to the same samples**, along every run
  that no failure of a call cuts short, and without samples nothing but the recoveries changes.
-/

namespace SensorBoard.Pipeline

variable {σ τ : Type} [Sampler σ] [Logger σ] [CriticalSection σ] [Conforming σ]

/-! ## What an acquisition depends on -/

/-- What an acquisition gives for the samples that have come since the cursor. The count goes up to
`2 ^ 32` only, and of more samples than that the newest are those it puts ahead of the reader. -/
def answer (n : UInt32) (ss : List Int16) : Acquisition :=
  match health ss.length.toUInt32 with
  | some f => ⟨.replicate 0, some f⟩
  | none => ⟨meansOf (numbered n (ss.drop (ss.length - ss.length.toUInt32.toNat))), none⟩

/-- The cursor after an acquisition. -/
def nextCursor (n : UInt32) (ss : List Int16) : UInt32 :=
  match health ss.length.toUInt32 with
  | some _ => 0
  | none => n + ss.length.toUInt32

/-- The samples that have come to a world since its sampler was last asked or set up. -/
def come (h : Held Pipeline σ) : List Int16 := (feed h.world).fresh.map Prod.snd

theorem map_snd_numbered (n : UInt32) (ss : List Int16) : (numbered n ss).map Prod.snd = ss := by
  induction ss generalizing n with
  | nil => rfl
  | cons s ss ih => rw [numbered, List.map_cons, ih]

/-- The samples of a backlog are the newest that have come: a slot that the reader asks for has been
written since the cursor, and what was in it before is gone. -/
theorem eq_drop_of_read {f : Feed} {n : UInt32} {ss ts : List Int16} (hf : f.Ahead n ss)
    (hlen : ts.length = ss.length % UInt32.size) (hle : ts.length ≤ 224)
    (hread : ∀ {k : Nat} {s}, ts[k]? = some s → f.ring.read (ringIndex (n + k.toUInt32)) = s) :
    ts = ss.drop (ss.length - ts.length) := by
  have hmod := Nat.mod_le ss.length UInt32.size
  have hdiv := Nat.div_add_mod ss.length UInt32.size
  have hskip : ss.length - ts.length = UInt32.size * (ss.length / UInt32.size) := by omega
  refine List.ext_getElem (by rw [List.length_drop]; omega) fun k h₁ h₂ => ?_
  rw [List.getElem_drop]
  have hk : ss.length - ts.length + k < ss.length := by omega
  -- whole turns of the count lie between the two indexes, so their slots are the same
  have hcount : (ss.length - ts.length + k).toUInt32 = k.toUInt32 := by
    rw [← UInt32.toNat_inj, Nat.toUInt32_eq, Nat.toUInt32_eq, UInt32.toNat_ofNat',
      UInt32.toNat_ofNat', hskip]
    exact Nat.mul_add_mod ..
  have hnew : f.ring.read (ringIndex (n + (ss.length - ts.length + k).toUInt32)) =
      ss[ss.length - ts.length + k] :=
    hf.read (List.getElem?_eq_getElem hk) (by omega)
  rw [← hnew, hcount]
  exact (hread (List.getElem?_eq_getElem h₁)).symm

/-- **A level reader gives an answer to what has come**, and its cursor follows from it as well. -/
theorem acquire_answers {h : Held Pipeline σ} (hl : Level h) (ha : ¬Aborted h) :
    (acquire.runOn h).1 = .ok (answer h.own.consumed (come h)) ∧
      (acquire.runOn h).2.own.consumed = nextCursor h.own.consumed (come h) := by
  obtain ⟨hp, ss, hfresh, hahead⟩ := hl
  have hcome : come h = ss := by rw [come, hfresh, map_snd_numbered]
  have hbacklog : (feed h.world).count - h.own.consumed = ss.length.toUInt32 := by
    rw [← UInt32.toNat_inj, Feed.toNat_count_sub hahead.count, Nat.toUInt32_eq,
      UInt32.toNat_ofNat']
  have hu : ss.length.toUInt32.toNat = ss.length % UInt32.size := by
    rw [Nat.toUInt32_eq, UInt32.toNat_ofNat']
  rw [hcome]
  unfold answer nextCursor
  rcases acquire_cases hp ha with
    ⟨ts, hnone, hlen, hread, hret, hown, -⟩ | ⟨f, -, -, hfault, hret, hown, -⟩
  · rw [hbacklog] at hnone hlen
    have hle := (health_eq_none_iff.1 hnone).2
    have hts : ts = ss.drop (ss.length - ts.length) :=
      eq_drop_of_read hahead (hlen.trans hu) (by omega) hread
    rw [hlen] at hts
    rw [hret, hown, hnone, hts, ← hahead.count]
    exact ⟨rfl, rfl⟩
  · rw [hbacklog] at hfault
    rw [hret, hown, hfault]
    exact ⟨rfl, rfl⟩

/-! ## Two runs beside each other -/

section Beside

variable [Sampler τ] [Logger τ] [CriticalSection τ] [Conforming τ]

/-- What holds before every pair of acquisitions of two runs, with a change of either world before
each. -/
def Beside (P : Held Pipeline σ → Held Pipeline τ → Prop) (h : Held Pipeline σ)
    (h' : Held Pipeline τ) : List (Turn σ × Turn τ) → Prop
  | [] => True
  | t :: ts => P ⟨h.own, t.1.move h.world⟩ ⟨h'.own, t.2.move h'.world⟩ ∧
      Beside P (acquire.runOn ⟨h.own, t.1.move h.world⟩).2
        (acquire.runOn ⟨h'.own, t.2.move h'.world⟩).2 ts

/-- Both readers get the same samples, and no call of theirs fails. -/
structure Alongside (h : Held Pipeline σ) (h' : Held Pipeline τ) : Prop where
  come : come h = come h'
  left : ¬Aborted h
  right : ¬Aborted h'

/-- Both acquisitions return, and return the same. -/
def SameAnswer (h : Held Pipeline σ) (h' : Held Pipeline τ) : Prop :=
  ∃ a, (acquire.runOn h).1 = .ok a ∧ (acquire.runOn h').1 = .ok a

/-- **Level readers with the same cursor give the same to the same samples**, on and on. -/
theorem Level.sameAnswer {h : Held Pipeline σ} {h' : Held Pipeline τ} (hl : Level h)
    (hl' : Level h') (hc : h.own.consumed = h'.own.consumed) (ts : List (Turn σ × Turn τ))
    (hrun : Beside Alongside h h' ts) : Beside SameAnswer h h' ts := by
  induction ts generalizing h h' with
  | nil => trivial
  | cons t ts ih =>
    obtain ⟨⟨hcome, ha, ha'⟩, hrest⟩ := hrun
    have hm : Level ⟨h.own, t.1.move h.world⟩ := hl.move t.1
    have hm' : Level ⟨h'.own, t.2.move h'.world⟩ := hl'.move t.2
    obtain ⟨hret, hnext⟩ := acquire_answers hm ha
    obtain ⟨hret', hnext'⟩ := acquire_answers hm' ha'
    dsimp only at hret hnext hret' hnext'
    rw [← hcome, ← hc] at hret' hnext'
    exact ⟨⟨_, hret, hret'⟩, ih (level_acquire hm.cleared ha) (level_acquire hm'.cleared ha')
      (hnext.trans hnext'.symm) hrest⟩

end Beside

/-! ## Without samples -/

/-- A reader after a number of acquisitions in a row. -/
def repeated (h : Held Pipeline σ) : Nat → Held Pipeline σ
  | 0 => h
  | n + 1 => (acquire.runOn (repeated h n)).2

/-- In a number of acquisitions in a row no call fails, and by the end of none a sample has come. -/
def Undelivered (h : Held Pipeline σ) (n : Nat) : Prop :=
  ∀ k < n, ¬Aborted (repeated h k) ∧ (feed (repeated h (k + 1)).world).all = (feed h.world).all

/-- What acquisitions in a row have changed: nothing but the number of recoveries. -/
structure Idle (h : Held Pipeline σ) (n : Nat) : Prop where
  stalled : ∀ k < n, (acquire.runOn (repeated h k)).1 = .ok ⟨.replicate 0, some .stalled⟩
  own : (repeated h n).own = { h.own with recoveries := h.own.recoveries + n.toUInt32 }
  ring : (feed (repeated h n).world).ring = (feed h.world).ring
  count : (feed (repeated h n).world).count = (feed h.world).count

/-- The state that an acquisition leaves after a fault. -/
structure JustReset (h : Held Pipeline σ) : Prop where
  restarted : ∃ p : Pipeline, h.own = p.restarted.closed (.replicate 0)
  count : (feed h.world).count = 0

theorem eq_nil_of_numbered_eq_nil {n : UInt32} {ss : List Int16} (h : numbered n ss = []) :
    ss = [] := by
  rw [← map_snd_numbered n ss, h, List.map_nil]

/-- A reader that was just reset is reset again, if no sample has come by then. -/
theorem JustReset.acquire {h : Held Pipeline σ} (hr : JustReset h) (ha : ¬Aborted h)
    (hall : (feed (acquire.runOn h).2.world).all = (feed h.world).all) :
    (Pipeline.acquire.runOn h).1 = .ok ⟨.replicate 0, some .stalled⟩ ∧
      (Pipeline.acquire.runOn h).2.own = { h.own with recoveries := h.own.recoveries + 1 } ∧
      (feed (Pipeline.acquire.runOn h).2.world).ring = (feed h.world).ring ∧
      JustReset (Pipeline.acquire.runOn h).2 := by
  obtain ⟨⟨p, hown⟩, hcount⟩ := hr
  have hp : h.own.Cleared := hown ▸ cleared_closed _ _
  have hu : (feed h.world).count - h.own.consumed = 0 := by
    rw [hcount, hown]
    exact UInt32.sub_zero 0
  rcases acquire_cases hp ha with ⟨-, hnone, -⟩ | ⟨f, ss, rs, hfault, hret, hown', hfeed⟩
  · rw [hu] at hnone
    cases hnone
  rw [hu] at hfault
  obtain rfl : f = .stalled := (Option.some.inj hfault).symm
  -- the history has not grown, so nothing came while the sampler was halted and resumed
  rw [hfeed, Feed.all_deliverAll, Feed.all_setUp, Feed.all_deliverAll, Feed.all_asked,
    List.append_assoc] at hall
  obtain ⟨hss, hrs⟩ := List.append_eq_nil_iff.1 (List.append_right_eq_self.1 hall)
  obtain rfl := eq_nil_of_numbered_eq_nil hss
  obtain rfl := eq_nil_of_numbered_eq_nil hrs
  refine ⟨hret, ?_, ?_, ⟨h.own, hown'⟩, ?_⟩
  · rw [hown', hown]
    rfl
  · rw [hfeed]
    rfl
  · rw [hfeed]
    rfl

theorem JustReset.idle {h : Held Pipeline σ} (hr : JustReset h) {n : Nat} (hn : Undelivered h n) :
    Idle h n := by
  suffices hrun : Idle h n ∧ JustReset (repeated h n) from hrun.1
  induction n with
  | zero =>
    refine ⟨⟨fun k hk => absurd hk (Nat.not_lt_zero k), ?_, rfl, rfl⟩, hr⟩
    rw [Nat.toUInt32_eq]
    simp [repeated]
  | succ n ih =>
    obtain ⟨hi, hr'⟩ := ih fun k hk => hn k (Nat.lt_succ_of_lt hk)
    obtain ⟨ha, hall⟩ := hn n (Nat.lt_succ_self n)
    have hbefore : (feed (repeated h n).world).all = (feed h.world).all := by
      cases n with
      | zero => rfl
      | succ n => exact (hn n (by omega)).2
    obtain ⟨hret, hown, hring, hr''⟩ := hr'.acquire ha (hall.trans hbefore.symm)
    refine ⟨⟨fun k hk => ?_, ?_, hring.trans hi.ring, hr''.count.trans hr.count.symm⟩, hr''⟩
    · rcases Nat.lt_succ_iff_lt_or_eq.1 hk with hk | rfl
      · exact hi.stalled k hk
      · exact hret
    · rw [repeated, hown, hi.own, ← count_add_one]

/-! ## After a fault -/

section Reset

variable [Sampler τ] [Logger τ] [CriticalSection τ] [Conforming τ]

/-- An acquisition has returned with a fault. -/
def Faulted (h : Held Pipeline σ) : Prop :=
  ∃ a, (acquire.runOn h).1 = .ok a ∧ a.fault ≠ none

omit [Conforming σ] in
theorem faulted_of_isSome {h : Held Pipeline σ}
    (hr : ((acquire.runOn h).1.toOption.bind Acquisition.fault).isSome = true) : Faulted h := by
  rcases ha : (acquire.runOn h).1 with e | a
  · rw [ha] at hr
    cases hr
  · rw [ha] at hr
    exact ⟨a, ha, Option.isSome_iff_ne_none.1 hr⟩

/-- What two readers keep of their past. -/
structure Forgotten (r : Held Pipeline σ) (r' : Held Pipeline τ) : Prop where
  cursor : r.own.consumed = 0 ∧ r'.own.consumed = 0
  averages : r.own.averages = .replicate 0 ∧ r'.own.averages = .replicate 0
  /-- Whatever comes, as long as the same comes to both, both give the same. -/
  same : ∀ ts, Beside Alongside r r' ts → Beside SameAnswer r r' ts
  /-- If nothing comes, nothing but the recoveries changes. -/
  idle : come r = [] → ∀ n, Undelivered r n → Idle r n
  idle' : come r' = [] → ∀ n, Undelivered r' n → Idle r' n

theorem acquire_faulted {h : Held Pipeline σ} (hp : h.own.Cleared) (hf : Faulted h) :
    Level (acquire.runOn h).2 ∧
      (acquire.runOn h).2.own = h.own.restarted.closed (.replicate 0) ∧
      (come (acquire.runOn h).2 = [] → JustReset (acquire.runOn h).2) := by
  obtain ⟨a, hret, hfault⟩ := hf
  have ha : ¬Aborted h := by
    rintro ⟨e, he⟩
    rw [hret] at he
    cases he
  have hl := level_acquire hp ha
  rcases acquire_cases hp ha with ⟨ss, -, -, -, hret', -⟩ | ⟨f, ss, rs, -, -, hown, hfeed⟩
  · rw [hret] at hret'
    cases hret'
    exact absurd rfl hfault
  · refine ⟨hl, hown, fun hcome => ⟨⟨_, hown⟩, ?_⟩⟩
    have hlen : (feed (acquire.runOn h).2.world).fresh.length = 0 := by
      rw [← List.length_map (f := Prod.snd), ← come, hcome]
      rfl
    rw [hl.count, hown, hlen]
    rfl

/-- **A reset forgets the past.** After a fault that was recovered from, two readers over samplers
that conform have nothing left of what their cursors, averages, rings and counts were: to the same
samples they give the same, along every run, of any length, that no failure of a call cuts short. -/
theorem reset_forgets {h : Held Pipeline σ} {h' : Held Pipeline τ} (hp : h.own.Cleared)
    (hp' : h'.own.Cleared) (hf : Faulted h) (hf' : Faulted h') :
    Forgotten (acquire.runOn h).2 (acquire.runOn h').2 := by
  obtain ⟨hl, hown, hreset⟩ := acquire_faulted hp hf
  obtain ⟨hl', hown', hreset'⟩ := acquire_faulted hp' hf'
  have hc : (acquire.runOn h).2.own.consumed = 0 := by
    rw [hown]
    rfl
  have hc' : (acquire.runOn h').2.own.consumed = 0 := by
    rw [hown']
    rfl
  refine ⟨⟨hc, hc'⟩, ⟨?_, ?_⟩, hl.sameAnswer hl' (hc.trans hc'.symm), ?_, ?_⟩
  · rw [hown, averages_closed]
  · rw [hown', averages_closed]
  · exact fun hcome n hn => (hreset hcome).idle hn
  · exact fun hcome n hn => (hreset' hcome).idle hn

end Reset

/-- An overrun and a stall, over rings with different samples in them: the two readers then agree on
four samples, on none, on one, and on more than they drain, and stall three times in a row. -/
theorem reset_forgets_overrun_and_stall :
    let h : Held Pipeline Supply := ⟨{ ring := 0, consumed := 5, recoveries := 3 },
      { feed := { ring := SampleRing.zero.writeAll 0 (.replicate 8 9), count := 1000 } }⟩
    let h' : Held Pipeline Supply := ⟨{ ring := 512, consumed := 0xFFFFFFFE },
      { feed := { ring := SampleRing.zero.writeAll 0 (.replicate 8 3), count := 0xFFFFFFFE } }⟩
    let turns (ss : List Int16) := (Supply.turn ss none, Supply.turn ss none)
    let ts := [turns [100, -200, 300, 400], turns [], turns [500], turns (.replicate 225 7)]
    Beside SameAnswer (acquire.runOn h).2 (acquire.runOn h').2 ts ∧ Idle (acquire.runOn h).2 3 := by
  intro h h' turns ts
  have hp : h.own.Cleared := fun c => by cases c <;> exact ⟨rfl, rfl⟩
  have hp' : h'.own.Cleared := fun c => by cases c <;> exact ⟨rfl, rfl⟩
  have hf : Faulted h := faulted_of_isSome (by decide +kernel)
  have hf' : Faulted h' := faulted_of_isSome (by decide +kernel)
  have hforgotten := reset_forgets hp hp' hf hf'
  refine ⟨hforgotten.same ts ?_, hforgotten.idle (by decide +kernel) 3 ?_⟩
  · refine ⟨⟨?_, not_aborted_of_isOk ?_, not_aborted_of_isOk ?_⟩,
      ⟨?_, not_aborted_of_isOk ?_, not_aborted_of_isOk ?_⟩,
      ⟨?_, not_aborted_of_isOk ?_, not_aborted_of_isOk ?_⟩,
      ⟨?_, not_aborted_of_isOk ?_, not_aborted_of_isOk ?_⟩, trivial⟩ <;> decide +kernel
  · intro k hk
    match k, hk with
    | 0, _ | 1, _ | 2, _ => exact ⟨not_aborted_of_isOk (by decide +kernel), by decide +kernel⟩

end SensorBoard.Pipeline
