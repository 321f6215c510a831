import SensorBoard.Firmware.Program
import SensorBoard.Proofs.Phases

/-!
# What operations keep

Much of what the program does has no bearing on a fact about its world. So that such a fact can be
carried past it, this module says once which calls the program makes, and that a fact which each of
these calls keeps is kept by everything the program is made of.

* `Step.Leads`, `Attempt.Leads`: from what holds before an operation to what holds after it, for its
  result and also if it ends early; `Keeps` is the case of a single fact.
* `Block.TickKeeps`, `Block.keeps_tick`: a tick keeps what its calls keep. The widths may be treated
  apart: what holds once they are loaded is what they are published with.
* `Firmware.CallsKeep`: every call of the program keeps a fact, apart from those that write what it
  shares with the handler. `prepare` is the start until its counter runs, and keeps it as well.
* `Firmware.keeps_cycle`: **a round of the program keeps a fact about the world and the widths that
  are published**, if it holds of all widths that can be loaded.
-/

namespace SensorBoard

variable {ε ε' κ κ' σ α β O I : Type}

/-! ## Before and after -/

/-- A fact about the world, whatever is held beside it. -/
abbrev Held.OfWorld (P : σ → Prop) : Held κ σ → Prop := fun h => P h.world

namespace Step

/-- What holds before the operation leads to what holds of its result and the world after it. -/
def Leads (P : σ → Prop) (x : Step σ α) (Q : α → σ → Prop) : Prop :=
  ∀ s, P s → Q (x.runOn s).1 (x.runOn s).2

/-- A fact about the world is as true after the operation as before. -/
def Keeps (P : σ → Prop) (x : Step σ α) : Prop := x.Leads P fun _ => P

variable {P R : σ → Prop} {Q : β → σ → Prop} {x : Step σ α} {y : Step σ β}

theorem Leads.bind {S : α → σ → Prop} {f : α → Step σ β} (hx : x.Leads P S)
    (hf : ∀ a, (f a).Leads (S a) Q) : (x >>= f).Leads P Q :=
  fun s h => hf _ _ (hx s h)

theorem keeps_pure (a : α) : Keeps P (pure a : Step σ α) := fun _ h => h

theorem keeps_get : Keeps P (get : Step σ σ) := fun _ h => h

theorem Keeps.bind {f : α → Step σ β} (hx : x.Keeps P) (hf : ∀ a, (f a).Keeps P) :
    (x >>= f).Keeps P :=
  Leads.bind hx hf

theorem Keeps.ite {p : Prop} [Decidable p] {y : Step σ α} (hx : x.Keeps P) (hy : y.Keeps P) :
    (if p then x else y).Keeps P := by
  split
  · exact hx
  · exact hy

theorem Keeps.forM {f : β → Step σ Unit} (h : ∀ b, (f b).Keeps P) (bs : List β) :
    (bs.forM f).Keeps P := by
  induction bs with
  | nil => exact keeps_pure ()
  | cons b bs ih => exact (h b).bind fun _ => ih

theorem Keeps.onWorld (hx : x.Keeps P) : Keeps (Held.OfWorld (κ := κ) P) (Step.onWorld x) :=
  fun s h => hx s.world h

/-- A fact about the world and what is held beside it. -/
theorem Keeps.beside {J : Held κ σ → Prop} (h : ∀ k, x.Keeps fun w => J ⟨k, w⟩) :
    Keeps J (Step.onWorld x) :=
  fun s hs => h s.own s.world hs

theorem keeps_onOwn (x : Step κ α) : (onOwn x : Step (Held κ σ) α).Keeps (Held.OfWorld P) :=
  fun _ h => h

theorem Keeps.onPart {get : κ → κ'} {put : κ' → κ → κ} {x : Step (Held κ' σ) α}
    (hx : x.Keeps (Held.OfWorld P)) : (Step.onPart get put x).Keeps (Held.OfWorld P) :=
  fun s hs => hx ⟨get s.own, s.world⟩ hs

theorem Leads.atomically [CriticalSection σ] (henter : Leads P CriticalSection.enter fun _ => R)
    (hy : y.Leads R Q) (hleave : ∀ b, Keeps (Q b) CriticalSection.leave) :
    (Step.atomically y).Leads P Q :=
  henter.bind fun _ => hy.bind fun b => Leads.bind (hleave b) fun _ _ h => h

end Step

namespace Attempt

/-- What holds of a result and the world after it, or of the world that an early end leaves. -/
inductive Ends (Q : α → σ → Prop) (E : σ → Prop) : Except ε α × σ → Prop
  | ok {a : α} {s : σ} (h : Q a s) : Ends Q E (.ok a, s)
  | error {e : ε} {s : σ} (h : E s) : Ends Q E (.error e, s)

theorem Ends.imp {Q Q' : α → σ → Prop} {E E' : σ → Prop} {r : Except ε α × σ} (h : Ends Q E r)
    (hok : ∀ a s, Q a s → Q' a s) (herror : ∀ s, E s → E' s) : Ends Q' E' r := by
  cases h with
  | ok h => exact .ok (hok _ _ h)
  | error h => exact .error (herror _ h)

theorem Ends.and {Q Q' : α → σ → Prop} {E E' : σ → Prop} {r : Except ε α × σ} (h : Ends Q E r)
    (h' : Ends Q' E' r) : Ends (fun a s => Q a s ∧ Q' a s) (fun s => E s ∧ E' s) r := by
  cases h with
  | ok h => cases h' with | ok h' => exact .ok ⟨h, h'⟩
  | error h => cases h' with | error h' => exact .error ⟨h, h'⟩

/-- What holds before the operation leads to what holds of its result and the world after it, or to
what holds if it ends early. -/
def Leads (P : σ → Prop) (x : Attempt ε σ α) (Q : α → σ → Prop) (E : σ → Prop) : Prop :=
  ∀ s, P s → Ends Q E (x.runOn s)

/-- A fact about the world is as true after the operation as before, also if it ends early. -/
def Keeps (P : σ → Prop) (x : Attempt ε σ α) : Prop := x.Leads P (fun _ => P) P

variable {P E : σ → Prop} {Q : β → σ → Prop} {x : Attempt ε σ α}

theorem keeps_iff : x.Keeps P ↔ ∀ s, P s → P (x.runOn s).2 := by
  refine forall_congr' fun s => imp_congr_right fun _ => ?_
  rcases x.runOn s with ⟨_ | _, _⟩
  · exact ⟨fun hend => by cases hend with | error h => exact h, fun h => .error h⟩
  · exact ⟨fun hend => by cases hend with | ok h => exact h, fun h => .ok h⟩

theorem Leads.bind {S : α → σ → Prop} {f : α → Attempt ε σ β} (hx : x.Leads P S E)
    (hf : ∀ a, (f a).Leads (S a) Q E) : (x >>= f).Leads P Q E := by
  intro s h
  have hend := hx s h
  rw [runOn_bind]
  rcases hr : x.runOn s with ⟨_ | a, s'⟩ <;> rw [hr] at hend
  · cases hend with | error he => exact .error he
  · cases hend with | ok ha => exact hf a s' ha

theorem keeps_pure (a : α) : Keeps P (pure a : Attempt ε σ α) := fun _ h => .ok h

theorem keeps_throw (e : ε) : Keeps P (throw e : Attempt ε σ α) := fun _ h => .error h

theorem keeps_get : Keeps P (get : Attempt ε σ σ) := fun _ h => .ok h

theorem Keeps.bind {f : α → Attempt ε σ β} (hx : x.Keeps P) (hf : ∀ a, (f a).Keeps P) :
    (x >>= f).Keeps P :=
  Leads.bind hx hf

theorem Keeps.adapt (f : ε → ε') (hx : x.Keeps P) :
    Keeps P (ExceptT.adapt f x : Attempt ε' σ α) :=
  keeps_iff.2 fun s h => keeps_iff.1 hx s h

theorem Keeps.ensuring {y : Attempt ε σ Unit} (hx : x.Keeps P) (hy : y.Keeps P) :
    (x.ensuring y).Keeps P :=
  keeps_iff.2 fun s h => keeps_iff.1 hy _ (keeps_iff.1 hx s h)

theorem Leads.onWorld {S : α → σ → Prop} (hx : x.Leads P S E) :
    Leads (Held.OfWorld (κ := κ) P) (Attempt.onWorld x) (fun a => Held.OfWorld (S a))
      (Held.OfWorld E) := by
  intro s h
  have hend := hx s.world h
  rw [runOn_onWorld]
  rcases hr : x.runOn s.world with ⟨_ | a, w⟩ <;> rw [hr] at hend
  · cases hend with | error he => exact .error he
  · cases hend with | ok ha => exact .ok ha

theorem Keeps.onWorld (hx : x.Keeps P) : Keeps (Held.OfWorld (κ := κ) P) (Attempt.onWorld x) :=
  Leads.onWorld hx

/-- A fact about the world and what is held beside it. -/
theorem Keeps.beside {J : Held κ σ → Prop} (h : ∀ k, x.Keeps fun w => J ⟨k, w⟩) :
    Keeps J (Attempt.onWorld x) :=
  keeps_iff.2 fun s hs => keeps_iff.1 (h s.own) s.world hs

theorem keeps_onOwn (x : Attempt ε κ α) :
    (onOwn x : Attempt ε (Held κ σ) α).Keeps (Held.OfWorld P) :=
  keeps_iff.2 fun _ h => h

theorem Keeps.onPart {get : κ → κ'} {put : κ' → κ → κ} {x : Attempt ε (Held κ' σ) α}
    (hx : x.Keeps (Held.OfWorld P)) : (Attempt.onPart get put x).Keeps (Held.OfWorld P) :=
  keeps_iff.2 fun s h => keeps_iff.1 hx ⟨get s.own, s.world⟩ h

theorem Keeps.atomically [CriticalSection σ] (henter : Step.Keeps P CriticalSection.enter)
    (hleave : Step.Keeps P CriticalSection.leave) (hx : x.Keeps P) :
    (Attempt.atomically x).Keeps P :=
  keeps_iff.2 fun s h => hleave _ (keeps_iff.1 hx _ (henter s h))

end Attempt

theorem Step.Leads.lift {P E : σ → Prop} {Q : α → σ → Prop} {x : Step σ α} (hx : x.Leads P Q) :
    Attempt.Leads (ε := ε) P (ExceptT.lift x) Q E :=
  fun s h => .ok (hx s h)

theorem Step.Keeps.lift {P : σ → Prop} {x : Step σ α} (hx : x.Keeps P) :
    Attempt.Keeps (ε := ε) P (ExceptT.lift x) :=
  Leads.lift hx

/-! ## The parts of a tick -/

namespace Pipeline

variable {P : σ → Prop} [Sampler σ] [Logger σ] [CriticalSection σ]

/-- Every call that an acquisition makes keeps a fact about the world. -/
structure CallsKeep (P : σ → Prop) : Prop where
  written : Attempt.Keeps P Sampler.written
  halt : Attempt.Keeps P Sampler.halt
  configure (t : Transfer) : Attempt.Keeps P (Sampler.configure t)
  resume : Attempt.Keeps P Sampler.resume
  sampleAt (i : UInt64) : Step.Keeps P (Sampler.sampleAt i)
  log (m : Message) : Step.Keeps P (log m)
  enter : Step.Keeps P CriticalSection.enter
  leave : Step.Keeps P CriticalSection.leave

namespace CallsKeep

omit [Sampler σ] [Logger σ] [CriticalSection σ] in
theorem call {x : Attempt SamplerCall σ α} (hx : x.Keeps P) :
    Attempt.Keeps (Held.OfWorld P) (Pipeline.call x) :=
  (hx.adapt Fatal.sampler).onWorld

variable (v : CallsKeep P)

include v

theorem lift_log (m : Message) : Attempt.Keeps (Held.OfWorld P)
    (ExceptT.lift (SensorBoard.log m) : Act (Held Pipeline σ) Unit) :=
  (v.log m).onWorld.lift

theorem recover (f : Fault) : Attempt.Keeps (Held.OfWorld P) (Pipeline.recover f) := by
  have hconfigure (t : Transfer) :
      Attempt.Keeps (Held.OfWorld P) (Pipeline.call (Sampler.configure t)) :=
    call (v.configure t)
  have hatomic (t : Transfer) := (hconfigure t).atomically v.enter.onWorld v.leave.onWorld
  exact (v.lift_log _).bind fun _ => (Attempt.keeps_onOwn _).bind fun _ =>
    Attempt.keeps_get.bind fun h => (call v.halt).bind fun _ =>
    (((v.lift_log _).bind fun _ => hatomic h.own.transfer).ensuring (call v.resume)).bind fun _ =>
    Attempt.keeps_onOwn _

theorem acquire : Attempt.Keeps (Held.OfWorld P) Pipeline.acquire := by
  have hunread : Attempt.Keeps (Held.OfWorld P) Pipeline.unread :=
    (call v.written).bind fun _ => Attempt.keeps_get.bind fun _ => Attempt.keeps_pure _
  have hdrain (n : Nat) : Attempt.Keeps (Held.OfWorld P) (drain n) :=
    Attempt.keeps_iff.2 fun s h => drain_keeps v.sampleAt v.log n s.own h
  have hfinish (f : Option Fault) : Attempt.Keeps (Held.OfWorld P) (finish f) := by
    have hpublish : Attempt.Keeps (Held.OfWorld P) (publishAll (σ := σ)) :=
      Attempt.keeps_iff.2 fun s h => by
        rw [Held.OfWorld, (onlyWindows_publishAll s).1]
        exact h
    exact hpublish.bind fun _ => (v.lift_log _).bind fun _ => Attempt.keeps_pure _
  refine hunread.bind fun u => ?_
  cases health u with
  | none => exact (hdrain _).bind fun _ => hfinish none
  | some f => exact (v.recover f).bind fun _ => hfinish (some f)

omit v in
theorem beside {J : Held κ σ → Prop} (h : ∀ k, CallsKeep fun w => J ⟨k, w⟩) : CallsKeep J where
  written := .beside fun k => (h k).written
  halt := .beside fun k => (h k).halt
  configure t := .beside fun k => (h k).configure t
  resume := .beside fun k => (h k).resume
  sampleAt i := .beside fun k => (h k).sampleAt i
  log m := .beside fun k => (h k).log m
  enter := .beside fun k => (h k).enter
  leave := .beside fun k => (h k).leave

end CallsKeep

end Pipeline

namespace Controller

variable {P : σ → Prop}

theorem keeps_driveAll [OutputPin O σ] (hdrive : ∀ (pin : O) high, Step.Keeps P
    (OutputPin.drive pin high)) (outputs : PerLine O) (m : LineMask) :
    Step.Keeps P (driveAll outputs m) :=
  .forM (fun _ => hdrive _ _) _

theorem keeps_setOutputs [OutputPin O σ] [Logger σ] (hdrive : ∀ (pin : O) high, Step.Keeps P
    (OutputPin.drive pin high)) (hlog : ∀ m, Step.Keeps P (log m)) (mask : UInt8) :
    Step.Keeps (Held.OfWorld (κ := Controller O I) P) (setOutputs mask) := by
  rintro ⟨c, w⟩ h
  rw [runOn_setOutputs]
  split
  · exact h
  · exact keeps_driveAll hdrive _ _ _ (hlog _ w h)

theorem keeps_readInputs [InputPin I σ] (hhigh : ∀ pin : I, Step.Keeps P (InputPin.isHigh pin)) :
    Step.Keeps (Held.OfWorld (κ := Controller O I) P) readInputs := by
  rintro ⟨c, w⟩ h
  have hsense : Step.Keeps P (senseAll c.inputs) :=
    (hhigh _).bind fun _ => (hhigh _).bind fun _ => (hhigh _).bind fun _ => (hhigh _).bind fun _ =>
      Step.keeps_pure _
  rw [runOn_readInputs]
  exact hsense w h

end Controller

namespace Block

variable [OutputPin O σ] [InputPin I σ] [Sampler σ] [SharedCapture σ] [CriticalSection σ]
  [Logger σ] [Link σ]

/-- Every call that a tick makes keeps a fact about the world; the widths are published with what
their loading has led to. -/
structure TickKeeps (O I : Type) [OutputPin O σ] [InputPin I σ] (P : σ → Prop)
    (Q : PerLine UInt16 → σ → Prop) : Prop where
  acquisition : Pipeline.CallsKeep P
  drive (pin : O) (high : Bool) : Step.Keeps P (OutputPin.drive pin high)
  isHigh (pin : I) : Step.Keeps P (InputPin.isHigh pin)
  requested : Attempt.Keeps P (Link.requested (σ := σ))
  inputs (levels : UInt8) : Attempt.Keeps P (Link.inputs levels)
  latestWidths : Step.Leads P SharedCapture.latestWidths Q
  widths (w : PerLine UInt16) : Attempt.Leads (Q w) (Link.widths w) (fun _ => P) P
  pitot (v : UInt16) : Attempt.Keeps P (Link.pitot v)
  battery (current voltage : UInt16) : Attempt.Keeps P (Link.battery current voltage)
  range (v : UInt16) : Attempt.Keeps P (Link.range v)

/-- **A tick keeps what its calls keep**, also if one of them ends it early. -/
theorem keeps_tick {P : σ → Prop} {Q : PerLine UInt16 → σ → Prop} (v : TickKeeps O I P Q) :
    Attempt.Keeps (Held.OfWorld (κ := Block O I) P) tick := by
  have hdigital {α : Type} {x : Step (Held (Controller O I) σ) α} (hx : x.Keeps (Held.OfWorld P)) :
      Attempt.Keeps (Held.OfWorld P) (onDigital x) := hx.onPart.lift
  have hlatest : Attempt.Leads (Held.OfWorld P)
      (ExceptT.lift SharedCapture.latestWidths : Act (Held (Block O I) σ) (PerLine UInt16))
      (fun w => Held.OfWorld (Q w)) (Held.OfWorld P) :=
    Step.Leads.lift fun h hp => v.latestWidths h.world hp
  exact v.requested.onWorld.bind fun _ =>
    (hdigital (Controller.keeps_setOutputs v.drive v.acquisition.log _)).bind fun _ =>
    (hdigital (Controller.keeps_readInputs v.isHigh)).bind fun _ =>
    (v.inputs _).onWorld.bind fun _ => hlatest.bind fun w => (v.widths w).onWorld.bind fun _ =>
    v.acquisition.acquire.onPart.bind fun _ => (v.pitot _).onWorld.bind fun _ =>
    (v.battery _ _).onWorld.bind fun _ => (v.range _).onWorld.bind fun _ => Attempt.keeps_pure _

end Block

/-! ## The program -/

namespace Firmware

theorem keeps_onLines {P : σ → Prop} {setUp : Pin → Line → Step σ Pin}
    (h : ∀ p l, (setUp p l).Keeps P) (gpios : PerLine Gpio) :
    Step.Keeps P (Pin.onLines setUp gpios) :=
  (h _ _).bind fun _ => (h _ _).bind fun _ => (h _ _).bind fun _ => (h _ _).bind fun _ =>
    Step.keeps_pure _

theorem keeps_need {P : σ → Prop} {x : Step σ (Option α)} (hx : x.Keeps P) (lack : Fatal) :
    Attempt.Keeps P (need x lack) := by
  refine Attempt.Keeps.bind hx.lift fun r => ?_
  cases r with
  | none => exact Attempt.keeps_throw _
  | some a => exact Attempt.keeps_pure a

theorem keeps_require {P : σ → Prop} {x : Step σ Bool} (hx : x.Keeps P) (lack : Fatal) :
    Attempt.Keeps P (require x lack) := by
  refine Attempt.Keeps.bind hx.lift fun r => ?_
  cases r with
  | false => exact Attempt.keeps_throw _
  | true => exact Attempt.keeps_pure ()

variable [Device σ] [Statics σ] [CriticalSection σ] [Logger σ]

/-- Every call of the program to its world keeps a fact about it, apart from those that write what
the program shares with the handler. -/
structure CallsKeep (P : σ → Prop) : Prop where
  perform (c : Command) : Step.Keeps P (perform c)
  takePeripherals : Step.Keeps P Device.takePeripherals
  clocksRun : Step.Keeps P Device.clocksRun
  pinHigh (g : Gpio) : Step.Keeps P (Device.pinHigh g)
  timer : Step.Keeps P Device.timer
  slice : Step.Keeps P Device.slice
  dmaRemaining : Step.Keeps P Device.dmaRemaining
  awaitAbort : Step.Keeps P Device.awaitAbort
  requested : Step.Keeps P Statics.requested
  takeRing : Step.Keeps P Statics.takeRing
  ringSample (i : UInt64) : Step.Keeps P (Statics.ringSample i)
  enter : Step.Keeps P CriticalSection.enter
  leave : Step.Keeps P CriticalSection.leave
  log (m : Message) : Step.Keeps P (log m)

namespace CallsKeep

variable {P : σ → Prop} (v : CallsKeep P)

include v

/-- What the acquisition asks of converter and transfer comes down to these calls. -/
theorem acquisition : Pipeline.CallsKeep (Held.OfWorld (κ := AdcDma) P) := by
  have hperform (c : Command) :
      Step.Keeps (Held.OfWorld (κ := AdcDma) P) (Device.perform c) := (v.perform c).onWorld
  have hwritten : Step.Keeps (Held.OfWorld P) AdcDma.written :=
    Step.keeps_get.bind fun _ =>
      .ite (v.dmaRemaining.onWorld.bind fun _ => Step.keeps_pure _) (Step.keeps_pure _)
  have hhalt : Step.Keeps (Held.OfWorld P) AdcDma.halt :=
    Step.keeps_get.bind fun _ => .ite
      ((hperform _).bind fun _ => (hperform _).bind fun _ => hperform _) (Step.keeps_pure _)
  have hresume : Step.Keeps (Held.OfWorld P) AdcDma.resume :=
    Step.keeps_get.bind fun _ => .ite (hperform _) (Step.keeps_pure _)
  have hrelease : Step.Keeps (Held.OfWorld P) AdcDma.release :=
    Step.keeps_get.bind fun _ =>
      .ite ((hperform _).bind fun _ => Step.keeps_onOwn _) (Step.keeps_pure _)
  have hfeed : Step.Keeps (Held.OfWorld P) AdcDma.feed :=
    Step.keeps_get.bind fun _ => (Step.keeps_onOwn _).bind fun _ => (hperform _).bind fun _ =>
      (hperform _).bind fun _ => (hperform _).bind fun _ => (hperform _).bind fun _ => hperform _
  have harm (t : Transfer) : Step.Keeps (Held.OfWorld P) (AdcDma.arm t) :=
    (hperform _).bind fun _ => (hperform _).bind fun _ => (hperform _).bind fun _ => hperform _
  have hconfigure (t : Transfer) : Step.Keeps (Held.OfWorld P) (AdcDma.configure t) :=
    (hperform _).bind fun _ => v.awaitAbort.onWorld.bind fun _ => hrelease.bind fun _ =>
      Step.keeps_get.bind fun _ => .ite
        (hfeed.bind fun _ => (harm t).bind fun _ => Step.keeps_onOwn _) (Step.keeps_pure _)
  exact {
    written := hwritten.lift
    halt := hhalt.lift
    configure := fun t => (hconfigure t).lift
    resume := hresume.lift
    sampleAt := fun i => (v.ringSample i).onWorld
    log := fun m => (v.log m).onWorld
    enter := v.enter.onWorld
    leave := v.leave.onWorld }

end CallsKeep

/-- What the start has at hand when it turns to the input edges. -/
structure Prepared where
  outputs : PerLine Pin
  inputs : PerLine Pin
  adcDma : AdcDma
  ring : UInt32
  counter : CaptureCounter

/-- The start until its counter runs. -/
def prepare : Act σ Prepared := do
  .lift (log .startup)
  require Device.takePeripherals .absent
  .lift (perform (.startClocks crystalHz))
  require Device.clocksRun .absent
  let outputs ← ExceptT.lift (Pin.onLines Pin.asOutput outputPins)
  let inputs ← ExceptT.lift (Pin.onLines Pin.asInput inputPins)
  let analog ← analogInputs analogPads
  .lift (perform .adcOn)
  let adcDma ← ExceptT.lift (AdcDma.start analog)
  let ring ← need Statics.createRing .ringTaken
  let counter ← ExceptT.lift CaptureCounter.start
  return { outputs, inputs, adcDma, ring, counter }

namespace CallsKeep

variable {P : σ → Prop} (v : CallsKeep P)

include v

theorem withFunction (p : Pin) (d : Direction) : Step.Keeps P (p.withFunction d (σ := σ)) :=
  .ite (Step.keeps_pure _) ((v.perform _).bind fun _ => Step.keeps_pure _)

theorem withPull (p : Pin) (pull : Pull) : Step.Keeps P (p.withPull pull (σ := σ)) :=
  .ite (Step.keeps_pure _) ((v.perform _).bind fun _ => Step.keeps_pure _)

theorem analogInputs (pads : PerChannel Gpio) : Attempt.Keeps P (analogInputs (σ := σ) pads) := by
  have hinput (g : Gpio) :
      Attempt.Keeps P (need (σ := σ) (Pin.asAnalog { gpio := g }) .absent) := by
    refine keeps_need ((v.withFunction _ _).bind fun _ => (v.withPull _ _).bind fun p => ?_) _
    cases Pin.adcInput? p.gpio with
    | none => exact Step.keeps_pure _
    | some i => exact (v.perform _).bind fun _ => Step.keeps_pure _
  exact (hinput _).bind fun _ => (hinput _).bind fun _ => (hinput _).bind fun _ =>
    (hinput _).bind fun _ => Attempt.keeps_pure _

theorem counter : Step.Keeps P (CaptureCounter.start (σ := σ)) := by
  have hcoarse : Step.Keeps P (CaptureCounter.coarse 0 (σ := σ)) :=
    v.timer.bind fun _ => Step.keeps_pure _
  exact (v.perform _).bind fun _ => (v.perform _).bind fun _ => (v.perform _).bind fun _ =>
    (v.perform _).bind fun _ => hcoarse.bind fun _ => v.slice.bind fun _ => (v.log _).bind fun _ =>
    Step.keeps_pure _

theorem prepare : Attempt.Keeps P (prepare (σ := σ)) := by
  have houtput (p : Pin) (l : Line) : Step.Keeps P (p.asOutput l (σ := σ)) :=
    (v.withFunction _ _).bind fun _ => v.withPull _ _
  have hinput (p : Pin) (l : Line) : Step.Keeps P (p.asInput l (σ := σ)) :=
    (v.withFunction _ _).bind fun _ => (v.withPull _ _).bind fun _ => (v.perform _).bind fun _ =>
      (v.perform _).bind fun _ => Step.keeps_pure _
  have hring : Step.Keeps P (Statics.createRing (σ := σ)) :=
    v.takeRing.bind fun _ => .ite ((v.log _).bind fun _ => Step.keeps_pure _) (Step.keeps_pure _)
  have hadcDma (inputs : PerChannel AdcInput) : Step.Keeps P (AdcDma.start inputs (σ := σ)) :=
    (v.log _).bind fun _ => Step.keeps_pure _
  exact (v.log _).lift.bind fun _ => (keeps_require v.takePeripherals _).bind fun _ =>
    (v.perform _).lift.bind fun _ => (keeps_require v.clocksRun _).bind fun _ =>
    (keeps_onLines houtput _).lift.bind fun _ => (keeps_onLines hinput _).lift.bind fun _ =>
    (v.analogInputs _).bind fun _ => (v.perform _).lift.bind fun _ => (hadcDma _).lift.bind fun _ =>
    (keeps_need hring _).bind fun _ => v.counter.lift.bind fun _ => Attempt.keeps_pure _

end CallsKeep

variable [SharedCapture σ]

/-- The start from there on: what concerns the input edges. -/
def listen (p : Prepared) : Act σ Parts := do
  let window ← .of (Window.forCounterHz captureCounterHz)
  .lift (SharedCapture.recalibrate window)
  .lift (log .installingEdgeSource)
  .lift (.atomically (Statics.installEdgeSource ⟨.ofPins p.inputs, p.counter⟩))
  let digital ← ExceptT.lift (Controller.configure p.outputs p.inputs)
  .lift (perform .unmaskEdges)
  .lift (log (.running tickPeriodUs))
  return { block := ⟨digital, { ring := p.ring }⟩, telemetry := {}, adcDma := p.adcDma }

theorem boot_eq : (boot : Act σ Parts) = prepare >>= listen := by
  simp only [boot, prepare, listen, bind_assoc, pure_bind]

/-- **A round of the program keeps a fact about the world and the widths that are published**, if it
holds of all widths that can be loaded. -/
theorem keeps_cycle {I : PerLine UInt16 → σ → Prop} (hcalls : ∀ w, CallsKeep (I w))
    (hload : ∀ w, Step.Leads (I w) SharedCapture.latestWidths I) :
    Attempt.Keeps (fun r : Running σ => I r.world.own.widths r.world.world.world) cycle := by
  have hend (v : UInt16) :
      Step.Keeps (fun t : Held TelemetryLog (Held AdcDma σ) => I t.own.widths t.world.world)
        (TelemetryLog.endTick v) := by
    have hlog (m : Message) :
        Step.Keeps (fun t : Held TelemetryLog (Held AdcDma σ) => I t.own.widths t.world.world)
          (log m) :=
      fun t h => (hcalls t.own.widths).log m _ h
    intro t h
    -- the tick is counted, which leaves the widths as they are
    exact Step.Keeps.ite (hlog _) (Step.keeps_pure ())
      ⟨{ t.own with ticks := t.own.ticks + 1 }, t.world⟩ h
  have htick : Block.TickKeeps Pin Pin
      (fun t : Held TelemetryLog (Held AdcDma σ) => I t.own.widths t.world.world)
      fun w t => I w t.world.world := {
    acquisition := .beside fun t => (hcalls t.widths).acquisition
    drive := fun pin high t h => (hcalls t.own.widths).perform (.pinLevel pin.gpio high) _ h
    isHigh := fun pin t h => (hcalls t.own.widths).pinHigh pin.gpio _ h
    requested := fun t h => .ok ((hcalls t.own.widths).requested _ h)
    inputs := fun _ _ h => .ok h
    latestWidths := fun t h => hload t.own.widths _ h
    -- the telemetry log gets just the widths that were loaded
    widths := fun _ _ h => .ok h
    pitot := fun _ _ h => .ok h
    battery := fun _ _ _ h => .ok h
    range := fun v => (hend v).lift }
  have hwait (c : Command) :
      Step.Keeps (fun r : Running σ => I r.world.own.widths r.world.world.world) (perform c) :=
    fun r h => (hcalls r.world.own.widths).perform c _ h
  exact (Block.keeps_tick htick).bind fun _ => (hwait _).lift

end Firmware

end SensorBoard
