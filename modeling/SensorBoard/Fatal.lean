import SensorBoard.Step

/-!
# Fatal conditions

The board has no error to recover from in its own logic: what it checks are conditions that make
going on pointless. `Fatal` lists them and `Fatal.message` gives each its text. The calls to the
sampler, which runs outside the program, are the only ones that may fail by themselves; such a
failure names the call (`SamplerCall`), and its text is the sampler's.
-/

namespace SensorBoard

inductive SamplerCall
  | written
  | halt
  | configure
  | resume
deriving DecidableEq

/-- A condition that ends an operation. -/
inductive Fatal
  /-- A pulse window whose lower bound is not below its upper bound. -/
  | emptyWindow
  /-- A channel was given more samples in one window than the ring can hold of it. -/
  | channelOverfull
  /-- An average above the largest that clamped samples can have. -/
  | averageOutOfRange
  | sampler (call : SamplerCall)
  /-- The sample ring belongs to somebody else. -/
  | ringTaken
  /-- Something the start needs is absent: the peripherals were taken, or the clocks failed. -/
  | absent
deriving DecidableEq

/-- The text of a condition, given what the sampler says when a call of it fails. -/
def Fatal.message (sampler : SamplerCall → String) : Fatal → String
  | .emptyWindow => "PWM window must be non-empty"
  | .channelOverfull => "more samples drained for one channel than the ring can hold"
  | .averageOutOfRange => "analog average exceeds 32768; clamp and ring sizing disagree"
  | .sampler call => sampler call
  | .ringTaken => "Sample ring was already handed out"
  | .absent => "called `Option::unwrap()` on a `None` value"

/-- An operation of the program on a world. -/
abbrev Act (σ : Type) : Type → Type := Attempt Fatal σ

end SensorBoard
