import BrowserFlow.Browser.Host
import BrowserFlow.Timed.Clock

/-!
Activities: computations that take time, use a host, and may be cut off by a deadline. An activity
ends with a value, with a fault, or by running out of the budget of an enclosing scope. What it
did before stays done.
-/
namespace BrowserFlow
set_option autoImplicit false

/-- How an activity ends. -/
inductive Outcome (α : Type) where
  | done (value : α)
  | failed (fault : Fault)
  /-- The deadline of the scope at this depth passed; the outermost scope has depth zero. -/
  | expired (depth : Nat)
  /-- The activity never ends. -/
  | endless
  deriving DecidableEq

/-- The world around an activity. -/
structure Scene (W T : Type) where
  world : W
  now : T
  control : Control

variable {W T P α β : Type}

/-- An activity over a host with world `W` and clock `T`; it reads and writes a state `P` of its
own. The list holds the deadlines of the enclosing scopes, the outermost first. -/
def Activity (W T P α : Type) : Type :=
  Host W T → List T → Scene W T → P → Outcome α × Scene W T × P

/-- An activity without a state of its own. -/
abbrev Errand (W T α : Type) : Type := Activity W T Unit α

namespace Activity

protected def pure (a : α) : Activity W T P α := fun _ _ s p => (.done a, s, p)

/-- The second activity starts with what the first one gives; any other end is the end of both. -/
protected def bind (x : Activity W T P α) (f : α → Activity W T P β) : Activity W T P β :=
  fun h ds s p =>
    match x h ds s p with
    | (.done a, s, p) => f a h ds s p
    | (.failed e, s, p) => (.failed e, s, p)
    | (.expired k, s, p) => (.expired k, s, p)
    | (.endless, s, p) => (.endless, s, p)

instance : Monad (Activity W T P) where
  pure := Activity.pure
  bind := Activity.bind

/-- Ends with a fault. -/
def fail (f : Fault) : Activity W T P α := fun _ _ s p => (.failed f, s, p)

/-- Ends with a value or a fault that is known already. -/
def ofExcept : Except Fault α → Activity W T P α
  | .ok a => pure a
  | .error f => fail f

/-- An endless wait. -/
def forever : Activity W T P α := fun _ _ s p => (.endless, s, p)

/-- The state of the activity. -/
def get : Activity W T P P := fun _ _ s p => (.done p, s, p)

/-- Changes the state of the activity. -/
def modify (f : P → P) : Activity W T P Unit := fun _ _ s p => (.done (), s, f p)

/-- The present moment. -/
def now : Activity W T P T := fun _ _ s p => (.done s.now, s, p)

/-- Whether a stop was asked for. -/
def stopped : Activity W T P Bool := fun _ _ s p => (.done s.control.stopped, s, p)

/-- Passes a request on to the run under way. -/
def request (r : Request) : Activity W T P Unit :=
  fun _ _ s p => (.done (), { s with control := s.control.receive r }, p)

/-- Turns a fault into a value; a passed deadline is no fault. -/
def attempt (x : Activity W T P α) : Activity W T P (Except Fault α) := fun h ds s p =>
  match x h ds s p with
  | (.done a, s, p) => (.done (.ok a), s, p)
  | (.failed f, s, p) => (.done (.error f), s, p)
  | (.expired k, s, p) => (.expired k, s, p)
  | (.endless, s, p) => (.endless, s, p)

/-- Changes the state when the activity is over, however it ended. -/
def ensuring (x : Activity W T P α) (f : P → P) : Activity W T P α := fun h ds s p =>
  match x h ds s p with
  | (o, s, p) => (o, s, f p)

/-- An errand as part of an activity with a state, which it cannot see. -/
def lift (x : Errand W T α) : Activity W T P α := fun h ds s p =>
  match x h ds s () with
  | (o, s, _) => (o, s, p)

variable [Clock T]

/-- The deadline that passes first, with the depth of its scope; of equal deadlines the outermost
counts. -/
def earliest (depth : Nat) : List T → Option (Nat × T)
  | [] => none
  | d :: ds =>
    match earliest (depth + 1) ds with
    | some (k, e) => if Clock.le d e then some (depth, d) else some (k, e)
    | none => some (depth, d)

/-- Where a sleep ends: at its own end, or at the deadline that is not after it. A sleep without
length takes no time. -/
def wake (ds : List T) (now duration : T) : Except (Nat × T) T :=
  if Clock.le duration Clock.zero then .ok now
  else
    let stop := Clock.add now duration
    match earliest 0 ds with
    | some (k, d) => if Clock.le d stop then .error (k, d) else .ok stop
    | none => .ok stop

/-- Follows a reply to its end. -/
def follow (ds : List T) (p : P) : Reply W T α → Scene W T → Outcome α × Scene W T × P
  | .done world requests result, s =>
    let s := { s with world := world, control := s.control.receiveAll requests }
    match result with
    | .ok a => (.done a, s, p)
    | .error f => (.failed f, s, p)
  | .sleep world requests duration resume, s =>
    let s := { s with world := world, control := s.control.receiveAll requests }
    match wake ds s.now duration with
    | .ok t => follow ds p (resume t) { s with now := t }
    | .error (k, d) => (.expired k, { s with now := d }, p)

/-- Calls the host. -/
def call (f : Host W T → Call W T α) : Activity W T P α := fun h ds s p =>
  follow ds p (f h s.now s.world) s

/-- Takes in the requests that came while the engine was busy. -/
def yield : Activity W T P Unit := fun h _ s p =>
  let (world, requests) := h.arrivals s.now s.world
  (.done (), { s with world := world, control := s.control.receiveAll requests }, p)

/-- Waits for a while. -/
def sleep (duration : T) : Activity W T P Unit := do
  yield
  fun _ ds s p =>
    match wake ds s.now duration with
    | .ok t => (.done (), { s with now := t }, p)
    | .error (k, d) => (.expired k, { s with now := d }, p)

/-- Gives an activity a budget. When it runs out, or when the host reports a timeout of its own,
the activity is cut off with the fault `late`; without any budget it does not even start. -/
def within (seconds : Float) (late : Fault) (x : Activity W T P α) : Activity W T P α := do
  yield
  fun h ds s p =>
    let limit := Clock.ofSeconds (T := T) seconds
    if (limit.any fun d => Clock.le d Clock.zero) then (.failed late, s, p)
    else
      let inner := match limit with
        | some d => ds ++ [Clock.add s.now d]
        | none => ds
      match x h inner s p with
      | (.failed f, s, p) =>
        if f.kind = .asyncTimeout then (.failed late, s, p) else (.failed f, s, p)
      | (.expired k, s, p) =>
        if k = ds.length then (.failed late, s, p) else (.expired k, s, p)
      | r => r

end Activity

end BrowserFlow
