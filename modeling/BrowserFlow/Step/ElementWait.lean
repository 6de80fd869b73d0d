import BrowserFlow.Timed.Activity

/-!
Waiting for the page: for an element to exist, and for a tab to have loaded.
-/
namespace BrowserFlow
set_option autoImplicit false

/-- What became of a wait for an element. -/
structure WaitReport where
  found : Bool
  durationMs : Int
  polls : Nat
  timedOut : Bool
  deriving DecidableEq, Repr

namespace ElementWait

variable {W T P : Type} [Clock T]

/-- Asks the page whether the element exists. A page that cannot be reached says no. -/
def check (tab : TabRef) (selector : String) : Activity W T P Bool := do
  let question : Mapping := [(.text "selector", .text selector)]
  match ← (Activity.call fun h : Host W T => h.perform tab .exists question).attempt with
  | .ok (some r) => pure (r.success && r.data.isTruthy)
  | .ok none => pure false
  | .error f => if f.isA .transient then pure false else Activity.fail f

/-- Asks again and again, at most `fuel` times. The last sleep ends at the deadline, and one more
question follows it. -/
def pollFrom (tab : TabRef) (selector : String) (start deadline interval : T) (polls : Nat) :
    Nat → Activity W T P WaitReport
  | 0 => Activity.forever
  | fuel + 1 => do
    let found ← check tab selector
    let now ← Activity.now
    if found then pure ⟨true, Clock.wholeMillis (Clock.sub now start), polls + 1, false⟩
    else
      let left := Clock.sub deadline now
      if Clock.le left Clock.zero then
        pure ⟨false, Clock.wholeMillis (Clock.sub now start), polls + 1, true⟩
      else do
        Activity.sleep (Clock.least interval left)
        pollFrom tab selector start deadline interval (polls + 1) fuel

/-- More questions than fit into the time when the interval is at least a millisecond. -/
def pollBound (timeoutMs pollMs : Int) : Nat := 2 * (timeoutMs.toNat / max 1 pollMs.toNat) + 16

/-- Waits for an element, at most for a time. -/
def run (tab : TabRef) (selector : String) (timeoutMs pollMs : Int) :
    Activity W T P WaitReport := do
  let start ← Activity.now
  let timeout ← Activity.ofExcept (Clock.ofMillis timeoutMs)
  let interval ← Activity.ofExcept (Clock.ofMillis pollMs)
  pollFrom tab selector start (Clock.add start timeout) interval 0 (pollBound timeoutMs pollMs)

/-- Waits for an element that has to appear. -/
def require (tab : TabRef) (selector : String) (timeoutMs pollMs : Int) :
    Activity W T P WaitReport := do
  let report ← run tab selector timeoutMs pollMs
  if report.timedOut then do
    let seconds ← Activity.ofExcept (Config.intToFloat timeoutMs)
    Activity.fail (.elementTimedOut timeoutMs (seconds / 1000.0) selector)
  else pure report

end ElementWait

namespace TabLoad

variable {W T P : Type} [Clock T]

/-- Waits until a tab has loaded, at most for a number of seconds. -/
def await (tab : TabRef) (seconds : Float) : Activity W T P Unit :=
  Activity.within seconds (.loadTimedOut seconds tab)
    (Activity.call fun h : Host W T => h.awaitLoad tab)

end TabLoad

end BrowserFlow
