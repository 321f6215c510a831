import SensorBoard.Fatal
import SensorBoard.Analog.Ring

/-!
# The sampler

The sampler is the engine that converts the analog inputs and fills the sample ring. It runs by
itself: software can watch its progress, stop it, set up its transfer, and let it go on. Each of
these calls may fail; a read of the ring cannot.
-/

namespace SensorBoard

/-- A transfer that fills a ring: samples go to `base` and on for `length` samples, then to `base`
again, until the transfer is stopped or replaced. -/
structure Transfer where
  /-- The address of the first sample slot. -/
  base : UInt32
  length : Nat
  /-- Bit `n` is set if analog input `n` takes its turn. -/
  channelMask : UInt8
deriving DecidableEq

/-- A world with an engine that fills a sample ring. -/
class Sampler (σ : Type) where
  /-- The samples written since the transfer was set up, modulo `2 ^ 32`. -/
  written : Attempt SamplerCall σ UInt32
  halt : Attempt SamplerCall σ Unit
  /-- Sets up a transfer anew and counts from 0. -/
  configure : Transfer → Attempt SamplerCall σ Unit
  /-- Lets conversions go on after `halt`. -/
  resume : Attempt SamplerCall σ Unit
  sampleAt : UInt64 → Step σ Int16

instance {κ σ : Type} [Sampler σ] : Sampler (Held κ σ) where
  written := .onWorld Sampler.written
  halt := .onWorld Sampler.halt
  configure t := .onWorld (Sampler.configure t)
  resume := .onWorld Sampler.resume
  sampleAt i := .onWorld (Sampler.sampleAt i)

namespace Sampler

variable {κ σ : Type} [Sampler σ]

@[simp] theorem written_held :
    (written : Attempt SamplerCall (Held κ σ) UInt32) = .onWorld written := rfl

@[simp] theorem halt_held : (halt : Attempt SamplerCall (Held κ σ) Unit) = .onWorld halt := rfl

@[simp] theorem configure_held (t : Transfer) :
    (configure t : Attempt SamplerCall (Held κ σ) Unit) = .onWorld (configure t) := rfl

@[simp] theorem resume_held :
    (resume : Attempt SamplerCall (Held κ σ) Unit) = .onWorld resume := rfl

@[simp] theorem sampleAt_held (i : UInt64) :
    (sampleAt i : Step (Held κ σ) Int16) = .onWorld (sampleAt i) := rfl

end Sampler

end SensorBoard
