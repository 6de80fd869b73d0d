import BrowserFlow.Timed.Activity

/-!
Trying again. An activity that fails for a passing reason is started anew after a delay, a bounded
number of times.
-/
namespace BrowserFlow
set_option autoImplicit false

/-- When and how often an activity is tried again. -/
structure RetryPolicy where
  /-- Attempts beyond the first; a negative number allows none. -/
  maxRetries : Int := 2
  delayMs : Int := 500
  retryable : List FaultKind := [.transient]
  /-- Kinds that are never tried again, even when they are special cases of a retryable kind. -/
  nonRetryable : List FaultKind := [.element]
  deriving DecidableEq, Inhabited

namespace RetryPolicy

/-- The policy that a configuration asks for. -/
def ofConfig (c : Config) : RetryPolicy :=
  { maxRetries := c.maxRetries, delayMs := c.retryDelayMs }

/-- The policy that never tries again. -/
def none : RetryPolicy := { maxRetries := 0, delayMs := 0 }

/-- Whether faults of a sort are tried again, however often it happened. -/
def covers (p : RetryPolicy) (f : Fault) : Bool :=
  !p.nonRetryable.any f.isA && p.retryable.any f.isA

/-- Whether the attempt with this number, the first being zero, is followed by another one. -/
def shouldRetry (p : RetryPolicy) (f : Fault) (attempt : Int) : Bool :=
  decide (attempt < p.maxRetries) && p.covers f

variable {W T P α : Type} [Clock T]

/-- The pause between attempts. -/
def pause (p : RetryPolicy) : Activity W T P Unit :=
  if 0 < p.delayMs then do
    let d ← Activity.ofExcept (Clock.ofMillis (T := T) p.delayMs)
    Activity.sleep d
  else pure ()

/-- Runs an activity with a number of attempts left beyond the one at hand. -/
def runFrom (p : RetryPolicy) (x : Activity W T P α) : Nat → Activity W T P α
  | 0 => x
  | left + 1 => do
    match ← x.attempt with
    | .ok a => pure a
    | .error f =>
      if p.covers f then do
        p.pause
        runFrom p x left
      else Activity.fail f

/-- Runs an activity until it gives a value, fails for good, or has used up its attempts. -/
def run (p : RetryPolicy) (x : Activity W T P α) : Activity W T P α :=
  p.runFrom x p.maxRetries.toNat

end RetryPolicy

end BrowserFlow
