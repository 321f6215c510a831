/-!
# Operations on a world

The board's code acts on a world it does not own: a converter that runs by itself, pins, a link to
the rest of the aircraft. The world is a type `σ`, and what can be done to it is a class over `σ`.

* `Step σ α`: an operation that always completes.
* `Attempt ε σ α`: an operation that may end early with an `ε`. The world keeps whatever had
  happened by then, so what is left behind by a failure is part of the result.
* `Attempt.ensuring`: a cleanup that runs on both exits.
* `Held κ σ`: a value of the board's own beside the world, for code that has state and acts.
* `CriticalSection σ`: the bracket inside which no interrupt is taken.

`runOn` shows what an operation does to one world; there is one equation for each way to build an
operation.
-/

namespace SensorBoard

/-- An operation on a world that always completes. -/
abbrev Step (σ : Type) : Type → Type := StateT σ Id

/-- An operation on a world that may end early; what it did until then stays done. -/
abbrev Attempt (ε σ : Type) : Type → Type := ExceptT ε (Step σ)

variable {ε ε' κ κ' σ α β : Type}

/-! ## What an operation does -/

/-- What an operation gives on a world, and the world after it. -/
def Step.runOn (x : Step σ α) (s : σ) : α × σ := x s

/-- What an operation gives on a world, or why it ended early, and the world after it. -/
def Attempt.runOn (x : Attempt ε σ α) (s : σ) : Except ε α × σ := Step.runOn x.run s

namespace Step

theorem ext {x y : Step σ α} (h : ∀ s, x.runOn s = y.runOn s) : x = y := funext h

@[simp] theorem runOn_pure (a : α) (s : σ) : (pure a : Step σ α).runOn s = (a, s) := rfl

@[simp] theorem runOn_bind (x : Step σ α) (f : α → Step σ β) (s : σ) :
    (x >>= f).runOn s = (f (x.runOn s).1).runOn (x.runOn s).2 := rfl

@[simp] theorem runOn_map (f : α → β) (x : Step σ α) (s : σ) :
    (f <$> x).runOn s = (f (x.runOn s).1, (x.runOn s).2) := rfl

@[simp] theorem runOn_get (s : σ) : (get : Step σ σ).runOn s = (s, s) := rfl

@[simp] theorem runOn_set (t s : σ) : (set t : Step σ PUnit).runOn s = (⟨⟩, t) := rfl

@[simp] theorem runOn_modify (f : σ → σ) (s : σ) : (modify f : Step σ PUnit).runOn s = (⟨⟩, f s) :=
  rfl

@[simp] theorem runOn_modifyGet (f : σ → α × σ) (s : σ) :
    (modifyGet f : Step σ α).runOn s = f s := rfl

@[simp] theorem runOn_ite (p : Prop) [Decidable p] (x y : Step σ α) (s : σ) :
    (if p then x else y).runOn s = if p then x.runOn s else y.runOn s := by
  split <;> rfl

end Step

namespace Attempt

theorem ext {x y : Attempt ε σ α} (h : ∀ s, x.runOn s = y.runOn s) : x = y := funext h

/-- What a value computes to, as an operation that touches nothing. -/
def of (x : Except ε α) : Attempt ε σ α := ExceptT.mk (pure x)

/-- The rest of an operation, after a part that came out in one way or the other. -/
def follow (f : α → Attempt ε σ β) : Except ε α × σ → Except ε β × σ
  | (.ok a, s) => (f a).runOn s
  | (.error e, s) => (.error e, s)

@[simp] theorem follow_ok (f : α → Attempt ε σ β) (a : α) (s : σ) :
    follow f (.ok a, s) = (f a).runOn s := rfl

@[simp] theorem follow_error (f : α → Attempt ε σ β) (e : ε) (s : σ) :
    follow f (.error e, s) = (.error e, s) := rfl

@[simp] theorem runOn_pure (a : α) (s : σ) :
    Attempt.runOn (pure a : Attempt ε σ α) s = (.ok a, s) := rfl

/-- An operation that ends early ends the one it is a part of. -/
@[simp] theorem runOn_bind (x : Attempt ε σ α) (f : α → Attempt ε σ β) (s : σ) :
    Attempt.runOn (x >>= f) s = follow f (x.runOn s) := by
  show Step.runOn (ExceptT.bindCont f (x.runOn s).1) (x.runOn s).2 = follow f (x.runOn s)
  rcases x.runOn s with ⟨_ | _, _⟩ <;> rfl

@[simp] theorem runOn_map (f : α → β) (x : Attempt ε σ α) (s : σ) :
    Attempt.runOn (f <$> x) s = ((x.runOn s).1.map f, (x.runOn s).2) := by
  rw [map_eq_pure_bind, runOn_bind]
  rcases x.runOn s with ⟨_ | _, _⟩ <;> rfl

@[simp] theorem runOn_throw (e : ε) (s : σ) :
    Attempt.runOn (throw e : Attempt ε σ α) s = (.error e, s) := rfl

@[simp] theorem runOn_of (x : Except ε α) (s : σ) :
    Attempt.runOn (of x : Attempt ε σ α) s = (x, s) := rfl

@[simp] theorem runOn_lift (x : Step σ α) (s : σ) :
    Attempt.runOn (ExceptT.lift x : Attempt ε σ α) s = (.ok (x.runOn s).1, (x.runOn s).2) := rfl

@[simp] theorem runOn_get (s : σ) : Attempt.runOn (get : Attempt ε σ σ) s = (.ok s, s) := rfl

@[simp] theorem runOn_set (t s : σ) :
    Attempt.runOn (set t : Attempt ε σ PUnit) s = (.ok ⟨⟩, t) := rfl

@[simp] theorem runOn_modify (f : σ → σ) (s : σ) :
    Attempt.runOn (modify f : Attempt ε σ PUnit) s = (.ok ⟨⟩, f s) := rfl

@[simp] theorem runOn_adapt (f : ε → ε') (x : Attempt ε σ α) (s : σ) :
    Attempt.runOn (ExceptT.adapt f x : Attempt ε' σ α) s =
      ((x.runOn s).1.mapError f, (x.runOn s).2) := rfl

@[simp] theorem runOn_ite (p : Prop) [Decidable p] (x y : Attempt ε σ α) (s : σ) :
    Attempt.runOn (if p then x else y) s = if p then x.runOn s else y.runOn s := by
  split <;> rfl

/-- **The cleanup runs on both exits of the body.** Of two failures the body's is the one that is
reported; a failure of the cleanup alone is a failure of the whole. -/
def ensuring (body : Attempt ε σ α) (cleanup : Attempt ε σ Unit) : Attempt ε σ α :=
  ExceptT.mk do
    let outcome ← body.run
    let cleaned ← cleanup.run
    return outcome.bind fun a => cleaned.map fun () => a

@[simp] theorem runOn_ensuring (body : Attempt ε σ α) (cleanup : Attempt ε σ Unit) (s : σ) :
    (body.ensuring cleanup).runOn s =
      ((body.runOn s).1.bind fun a => (cleanup.runOn (body.runOn s).2).1.map fun () => a,
       (cleanup.runOn (body.runOn s).2).2) := rfl

end Attempt

/-! ## A value beside the world -/

/-- A value beside the world it acts on. -/
structure Held (κ σ : Type) where
  own : κ
  world : σ

namespace Step

/-- An operation on the world leaves what is held beside it. -/
def onWorld (x : Step σ α) : Step (Held κ σ) α := fun h =>
  let own := h.own
  let (a, world) := x.runOn h.world
  (a, ⟨own, world⟩)

/-- An operation on the held value leaves the world. -/
def onOwn (x : Step κ α) : Step (Held κ σ) α := fun h =>
  let world := h.world
  let (a, own) := x.runOn h.own
  (a, ⟨own, world⟩)

/-- An operation that holds one part of the held value acts on that part and the world. -/
def onPart (get : κ → κ') (put : κ' → κ → κ) (x : Step (Held κ' σ) α) : Step (Held κ σ) α :=
  fun h =>
    let own := h.own
    let (a, p) := x.runOn ⟨get own, h.world⟩
    (a, ⟨put p.own own, p.world⟩)

@[simp] theorem runOn_onWorld (x : Step σ α) (h : Held κ σ) :
    (onWorld x).runOn h = ((x.runOn h.world).1, ⟨h.own, (x.runOn h.world).2⟩) := rfl

@[simp] theorem runOn_onOwn (x : Step κ α) (h : Held κ σ) :
    (onOwn x).runOn h = ((x.runOn h.own).1, ⟨(x.runOn h.own).2, h.world⟩) := rfl

@[simp] theorem runOn_onPart (get : κ → κ') (put : κ' → κ → κ) (x : Step (Held κ' σ) α)
    (h : Held κ σ) :
    (onPart get put x).runOn h =
      let r := x.runOn ⟨get h.own, h.world⟩
      (r.1, ⟨put r.2.own h.own, r.2.world⟩) := rfl

end Step

namespace Attempt

/-- An operation on the world leaves what is held beside it, also when it ends early. -/
def onWorld (x : Attempt ε σ α) : Attempt ε (Held κ σ) α := ExceptT.mk (Step.onWorld x.run)

/-- An operation on the held value leaves the world, also when it ends early. -/
def onOwn (x : Attempt ε κ α) : Attempt ε (Held κ σ) α := ExceptT.mk (Step.onOwn x.run)

/-- An operation that holds one part of the held value acts on that part and the world. -/
def onPart (get : κ → κ') (put : κ' → κ → κ) (x : Attempt ε (Held κ' σ) α) :
    Attempt ε (Held κ σ) α :=
  ExceptT.mk (Step.onPart get put x.run)

@[simp] theorem runOn_onWorld (x : Attempt ε σ α) (h : Held κ σ) :
    (onWorld x).runOn h = ((x.runOn h.world).1, ⟨h.own, (x.runOn h.world).2⟩) := rfl

@[simp] theorem runOn_onOwn (x : Attempt ε κ α) (h : Held κ σ) :
    (onOwn x).runOn h = ((x.runOn h.own).1, ⟨(x.runOn h.own).2, h.world⟩) := rfl

@[simp] theorem runOn_onPart (get : κ → κ') (put : κ' → κ → κ) (x : Attempt ε (Held κ' σ) α)
    (h : Held κ σ) :
    (onPart get put x).runOn h =
      let r := x.runOn ⟨get h.own, h.world⟩
      (r.1, ⟨put r.2.own h.own, r.2.world⟩) := rfl

end Attempt

/-! ## Critical sections -/

/-- A world in which interrupts can be held off. -/
class CriticalSection (σ : Type) where
  /-- No interrupt is taken from here on. -/
  enter : Step σ Unit
  /-- Ends the innermost section that was entered. -/
  leave : Step σ Unit

instance [CriticalSection σ] : CriticalSection (Held κ σ) where
  enter := .onWorld CriticalSection.enter
  leave := .onWorld CriticalSection.leave

@[simp] theorem CriticalSection.enter_held [CriticalSection σ] :
    (enter : Step (Held κ σ) Unit) = .onWorld enter := rfl

@[simp] theorem CriticalSection.leave_held [CriticalSection σ] :
    (leave : Step (Held κ σ) Unit) = .onWorld leave := rfl

/-- The operation as one piece, as far as interrupts can tell. -/
def Step.atomically [CriticalSection σ] (x : Step σ α) : Step σ α := do
  CriticalSection.enter
  let a ← x
  CriticalSection.leave
  return a

/-- The operation as one piece; the section is left also when the operation ends early. -/
def Attempt.atomically [CriticalSection σ] (x : Attempt ε σ α) : Attempt ε σ α :=
  ExceptT.mk (Step.atomically x.run)

@[simp] theorem Step.runOn_atomically [CriticalSection σ] (x : Step σ α) (s : σ) :
    (atomically x).runOn s =
      let r := x.runOn (CriticalSection.enter.runOn s).2
      (r.1, (CriticalSection.leave.runOn r.2).2) := rfl

@[simp] theorem Attempt.runOn_atomically [CriticalSection σ] (x : Attempt ε σ α) (s : σ) :
    (atomically x).runOn s =
      let r := x.runOn (CriticalSection.enter.runOn s).2
      (r.1, (CriticalSection.leave.runOn r.2).2) := rfl

end SensorBoard
