import SensorBoard.Proofs.Control
import SensorBoard.Proofs.Feed

/-!
# Acquisitions over a conforming sampler

What an acquisition does to the feed of a sampler that conforms, and what it drains. Whether the
acquisition returns does not say whether the sampler was set up: a resume may fail after that.

* `Pipeline.drained`: the samples that an acquisition drains, with index and channel.
* `SetUp`, `SetUpFailed`: the calls include a transfer that was set up, or a failure before that.
* `Passage`: the exits of an acquisition, each with what it leaves of the feed.
* `passage_observe`: **every acquisition from empty windows takes one of them.**
-/

namespace SensorBoard

def drainMessage (x : UInt32 × Int16) : Message :=
  .drained (ringIndex x.1) (.ofSample (ringIndex x.1)) x.2

def Message.sample : Message → Option (UInt64 × Channel × Int16)
  | drained index channel raw => some (index, channel, raw)
  | _ => none

@[simp] theorem samples_drainMessage (xs : List (UInt32 × Int16)) :
    (xs.map drainMessage).filterMap Message.sample =
      xs.map fun x => (ringIndex x.1, .ofSample (ringIndex x.1), x.2) := by
  induction xs with
  | nil => rfl
  | cons x xs ih => rw [List.map_cons, List.map_cons, ← ih]; rfl

/-- A call that has set up a transfer. -/
def Call.setsUp : Call → Bool
  | configure _ (.ok _) => true
  | _ => false

/-- A call that has failed before a transfer was set up: to halt, or to set it up. -/
def Call.failsSetUp : Call → Bool
  | halt (.error _) | configure _ (.error _) => true
  | _ => false

/-- The calls include a transfer that was set up. -/
def SetUp (cs : List Call) : Prop := ∃ c ∈ cs, c.setsUp = true

/-- The calls include a failure to set up a transfer. -/
def SetUpFailed (cs : List Call) : Prop := ∃ c ∈ cs, c.failsSetUp = true

instance (cs : List Call) : Decidable (SetUp cs) :=
  inferInstanceAs (Decidable (∃ c ∈ cs, c.setsUp = true))

instance (cs : List Call) : Decidable (SetUpFailed cs) :=
  inferInstanceAs (Decidable (∃ c ∈ cs, c.failsSetUp = true))

namespace Pipeline

variable {σ : Type} [Sampler σ] [Logger σ] [CriticalSection σ]

/-- The samples that an acquisition drains, in order, with their indexes and channels. -/
def drained (h : Held Pipeline σ) : List (UInt64 × Channel × Int16) :=
  (messages h).filterMap Message.sample

omit [CriticalSection σ] in
/-- What reading puts on record: no call, and one message a sample. -/
theorem readFrom_record (n : UInt32) (k : Nat) (o : Observed σ) :
    let r := (readFrom n k).runOn o
    r.2.calls = o.calls ∧ r.2.messages = o.messages ++ (numbered n r.1).map drainMessage := by
  induction k generalizing n o with
  | zero => exact ⟨rfl, (List.append_nil _).symm⟩
  | succ k ih =>
    rw [runOn_readFrom_succ]
    obtain ⟨h₁, h₂⟩ := ih (n + 1) ((log (.drained (ringIndex n) (.ofSample (ringIndex n))
      ((Sampler.sampleAt (ringIndex n)).runOn o).1)).runOn
        ((Sampler.sampleAt (ringIndex n)).runOn o).2).2
    exact ⟨h₁, h₂.trans (List.append_assoc ..)⟩

variable [Conforming σ] {w : σ} {n : UInt32} {ss : List Int16}

theorem feed_readFrom (n : UInt32) (k : Nat) (w : σ) :
    feed ((readFrom n k).runOn w).2 = feed w := by
  induction k generalizing n w with
  | zero => rfl
  | succ k ih => simp only [runOn_readFrom_succ, ih, Conforming.feed_log, Conforming.feed_sampleAt]

/-- Reading gives what is in the ring. -/
theorem read_readFrom {k m : Nat} {s : Int16} (h : ((readFrom n m).runOn w).1[k]? = some s) :
    (feed w).ring.read (ringIndex (n + k.toUInt32)) = s := by
  induction m generalizing n w k with
  | zero => cases h
  | succ m ih =>
    rw [runOn_readFrom_succ] at h
    cases k with
    | zero =>
      rw [List.getElem?_cons_zero, Option.some.injEq, Conforming.sampleAt] at h
      rwa [count_add_zero]
    | succ k =>
      have := ih h
      rwa [Conforming.feed_log, Conforming.feed_sampleAt, count_one_add] at this

/-- **A restart**, by whether the sampler was set up: if not, the restart failed, and no more than
some samples have come. -/
theorem restart_conforming (f : Fault) (t : Transfer) (o : Observed σ) :
    let r := (restart f t).runOn o
    r.2.messages.filterMap Message.sample = o.messages.filterMap Message.sample ∧
      ∃ cs, r.2.calls = o.calls ++ cs ∧
        ((¬SetUp cs ∧ SetUpFailed cs ∧ (∃ e, r.1 = .error e) ∧
            ∃ ss, feed r.2 = (feed o).deliverAll ss) ∨
          (SetUp cs ∧ ¬SetUpFailed cs ∧
            ∃ ss rs, feed r.2 = ((feed o).deliverAll ss).setUp.deliverAll rs)) := by
  -- no message of a restart says that a sample was drained
  have hf : f.message.sample = none := by cases f <;> rfl
  have hm₀ : Message.reconfiguring.sample = none := rfl
  rcases restart_cases f t o with ⟨e, o₁, hh, hr⟩ | ⟨o₁, c, o₂, s, o₃, hh, hc, hs, hr⟩ <;>
    rw [hr] <;> obtain ⟨ss, hss⟩ := Conforming.halt hh <;>
    obtain ⟨hh, hh'⟩ := Observed.recorded .halt hh <;>
    simp only [Observed.calls_log, Observed.messages_log, Conforming.feed_log] at hh hh' hss
  · refine ⟨by simp [hh', hf], _, hh, .inl ⟨?_, ?_, ⟨e, rfl⟩, ss, hss⟩⟩ <;>
      simp [SetUp, SetUpFailed, Call.setsUp, Call.failsSetUp]
  obtain ⟨rs, hrs⟩ := Conforming.resume hs
  obtain ⟨hc', hm'⟩ := Observed.recorded (.configure t) hc
  obtain ⟨hs, hm⟩ := Observed.recorded .resume hs
  simp only [Observed.calls_leave, Observed.calls_enter, Observed.calls_log, hh,
    Observed.messages_leave, Observed.messages_enter, Observed.messages_log, hh',
    Conforming.feed_leave, List.append_assoc] at hc' hs hm' hm hrs
  rw [hc'] at hs
  refine ⟨by simp [hm, hm', hf, hm₀], _, hs.trans (List.append_assoc ..), ?_⟩
  cases c with
  -- the sampler is resumed also when it was not set up
  | error e =>
    refine .inl ⟨by simp [SetUp, Call.setsUp], by simp [SetUpFailed, Call.failsSetUp], ⟨e, rfl⟩,
      ss ++ rs, ?_⟩
    rw [hrs, Conforming.configure_error hc, Conforming.feed_enter, Conforming.feed_log, hss]
    exact (List.foldl_append ..).symm
  | ok _ =>
    refine .inr ⟨by simp [SetUp, Call.setsUp], by simp [SetUpFailed, Call.failsSetUp], ss, rs, ?_⟩
    rw [hrs, Conforming.configure_ok hc, Conforming.feed_enter, Conforming.feed_log, hss]

/-- The exits of an acquisition over a sampler that conforms, with what each leaves of the feed and
what it has drained. -/
inductive Passage (p : Pipeline) (w : σ)
    (r : Except Fatal Acquisition × Held Pipeline (Observed σ)) :
    List (UInt64 × Channel × Int16) → Prop
  /-- The sampler failed to give its count. -/
  | unanswered (e : SamplerCall) (failed : r.1 = .error (.sampler e)) (own : r.2.own = p)
      (feed_eq : feed r.2.world = feed w)
      (calls : ¬SetUp r.2.world.calls ∧ ¬SetUpFailed r.2.world.calls) : Passage p w r []
  /-- The backlog was drained. -/
  | healthy (ss : List Int16) (length : ss.length = ((feed w).count - p.consumed).toNat)
      (drainable : 1 ≤ ss.length ∧ ss.length ≤ 224)
      (read : ∀ {k : Nat} {s}, ss[k]? = some s →
        (feed w).ring.read (ringIndex (p.consumed + k.toUInt32)) = s)
      (returned : r.1 = .ok ⟨meansOf (numbered p.consumed ss), none⟩)
      (own : r.2.own = ({ p with consumed := (feed w).count } : Pipeline).closed
        (meansOf (numbered p.consumed ss)))
      (feed_eq : feed r.2.world = (feed w).asked)
      (calls : ¬SetUp r.2.world.calls ∧ ¬SetUpFailed r.2.world.calls) :
      Passage p w r ((numbered p.consumed ss).map fun x =>
        (ringIndex x.1, .ofSample (ringIndex x.1), x.2))
  /-- There was a fault, and the sampler was not set up. -/
  | notSetUp (f : Fault) (fault : health ((feed w).count - p.consumed) = some f)
      (e : SamplerCall) (failed : r.1 = .error (.sampler e)) (own : r.2.own = p.rewound)
      (ss : List Int16) (feed_eq : feed r.2.world = (feed w).asked.deliverAll ss)
      (calls : ¬SetUp r.2.world.calls ∧ SetUpFailed r.2.world.calls) : Passage p w r []
  /-- There was a fault, and the sampler was set up, but failed to resume. -/
  | notResumed (f : Fault) (fault : health ((feed w).count - p.consumed) = some f)
      (e : SamplerCall) (failed : r.1 = .error (.sampler e)) (own : r.2.own = p.rewound)
      (ss rs : List Int16)
      (feed_eq : feed r.2.world = ((feed w).asked.deliverAll ss).setUp.deliverAll rs)
      (calls : SetUp r.2.world.calls ∧ ¬SetUpFailed r.2.world.calls) : Passage p w r []
  /-- There was a fault, and the sampler was set up and resumed. -/
  | restarted (f : Fault) (fault : health ((feed w).count - p.consumed) = some f)
      (returned : r.1 = .ok ⟨.replicate 0, some f⟩)
      (own : r.2.own = p.restarted.closed (.replicate 0)) (ss rs : List Int16)
      (feed_eq : feed r.2.world = ((feed w).asked.deliverAll ss).setUp.deliverAll rs)
      (calls : SetUp r.2.world.calls ∧ ¬SetUpFailed r.2.world.calls) : Passage p w r []

/-- **Every acquisition from empty windows takes one of these exits.** -/
theorem passage_observe {p : Pipeline} (hp : p.Cleared) (w : σ) :
    Passage p w (observe ⟨p, w⟩) (drained ⟨p, w⟩) := by
  have hx : Exit p ({ world := w } : Observed σ) (observe ⟨p, w⟩) := exit_acquire hp _
  rw [drained, messages]
  generalize observe (⟨p, w⟩ : Held Pipeline σ) = r at hx ⊢
  cases hx with
  | unanswered written =>
    obtain ⟨hc, hm⟩ := Observed.recorded .written written
    simp only [hm, List.filterMap_nil]
    refine .unanswered _ rfl rfl (Conforming.written_error written) ?_
    simp [hc, SetUp, SetUpFailed, Call.setsUp, Call.failsSetUp]
  | @healthy _ o₁ o₂ ss xs written drainable read numbered =>
    obtain ⟨hc, hm⟩ := Observed.recorded .written written
    obtain ⟨rfl, hfeed⟩ := Conforming.written_ok written
    obtain ⟨hc', hm'⟩ := readFrom_record p.consumed (p.backlog (feed w).count).toNat o₁
    have hlen := length_readFrom p.consumed (p.backlog (feed w).count).toNat o₁
    have hkeep := feed_readFrom p.consumed (p.backlog (feed w).count).toNat o₁
    have hread {k : Nat} {s : Int16} :=
      read_readFrom (w := o₁) (n := p.consumed) (k := k) (m := (p.backlog (feed w).count).toNat)
        (s := s)
    subst numbered
    rw [feed_observed] at read
    simp only [read, hfeed, feed_observed] at hc' hm' hlen hread hkeep
    simp only [Observed.messages_log, hm', hm, List.nil_append, List.filterMap_append,
      samples_drainMessage]
    rw [show [Message.averages _].filterMap Message.sample = [] from rfl, List.append_nil]
    refine .healthy ss hlen ?_ hread rfl rfl ?_ ?_
    · rw [hlen]
      exact health_eq_none_iff.1 drainable
    · exact (Conforming.feed_log _ o₂.world).trans hkeep
    · simp [hc', hc, SetUp, SetUpFailed, Call.setsUp, Call.failsSetUp]
  | @notRestarted _ f e o₁ o₂ written fault restart =>
    obtain ⟨hc, hm⟩ := Observed.recorded .written written
    obtain ⟨rfl, hfeed⟩ := Conforming.written_ok written
    obtain ⟨hm', cs, hc', hcs⟩ := restart_conforming f p.transfer o₁
    simp only [restart, hm, hc, hfeed, feed_observed, List.filterMap_nil] at hm' hc' hcs
    have hset : SetUp o₂.calls ↔ SetUp cs := by simp [hc', SetUp, Call.setsUp]
    have hfail : SetUpFailed o₂.calls ↔ SetUpFailed cs := by
      simp [hc', SetUpFailed, Call.failsSetUp]
    simp only [hm']
    obtain ⟨hcs, hcs', -, ss, hss⟩ | ⟨hcs, hcs', ss, rs, hss⟩ := hcs
    · exact .notSetUp f fault e rfl rfl ss hss ⟨mt hset.1 hcs, hfail.2 hcs'⟩
    · exact .notResumed f fault e rfl rfl ss rs hss ⟨hset.2 hcs, mt hfail.1 hcs'⟩
  | @restarted _ f o₁ o₂ written fault restart =>
    obtain ⟨hc, hm⟩ := Observed.recorded .written written
    obtain ⟨rfl, hfeed⟩ := Conforming.written_ok written
    obtain ⟨hm', cs, hc', hcs⟩ := restart_conforming f p.transfer o₁
    simp only [restart, hm, hc, hfeed, feed_observed, List.filterMap_nil] at hm' hc' hcs
    have hset : SetUp o₂.calls ↔ SetUp cs := by simp [hc', SetUp, Call.setsUp]
    have hfail : SetUpFailed o₂.calls ↔ SetUpFailed cs := by
      simp [hc', SetUpFailed, Call.failsSetUp]
    simp only [Observed.messages_log, List.filterMap_append, hm', List.nil_append]
    -- a restart that succeeded has set the sampler up
    obtain ⟨-, -, ⟨e, he⟩, -⟩ | ⟨hcs, hcs', ss, rs, hss⟩ := hcs
    · cases he
    · refine .restarted f fault rfl rfl ss rs ?_ ⟨hset.2 hcs, mt hfail.1 hcs'⟩
      exact (Conforming.feed_log _ o₂.world).trans hss

end Pipeline

end SensorBoard
