import BrowserFlow.Flow.Config

/-!
Clocks. Activities only need to add durations, to compare moments, and to turn settings into
durations, so they run on doubles as well as on exact numbers.
-/
namespace BrowserFlow
set_option autoImplicit false

/-- Moments and durations in seconds. -/
class Clock (T : Type) where
  zero : T
  add : T → T → T
  sub : T → T → T
  /-- Whether the first moment is not after the second. -/
  le : T → T → Bool
  /-- A number of milliseconds as a duration. -/
  ofMillis : Int → Except Fault T
  /-- A number of seconds as a duration, none for a budget that never ends. -/
  ofSeconds : Float → Option T
  /-- The whole milliseconds of a duration. -/
  wholeMillis : T → Int

namespace Clock

/-- The shorter of two durations. -/
def least {T : Type} [Clock T] (a b : T) : T := if le b a && !le a b then b else a

/-- The whole milliseconds of a duration in seconds that is kept as a double. -/
def floatMillis (x : Float) : Int :=
  match Decimal.Reading.ofFloat (x * 1000.0) with
  | .finite b => b.truncate
  | _ => 0

/-- Time as doubles. -/
instance : Clock Float where
  zero := 0.0
  add := (· + ·)
  sub := (· - ·)
  le a b := a ≤ b
  ofMillis n := (Config.intToFloat n).map (· / 1000.0)
  ofSeconds x := if x.isNaN then none else some x
  wholeMillis := floatMillis

/-- The exact value of a double, none unless it is finite. -/
def rational? (x : Float) : Option Rat :=
  match Decimal.Reading.ofFloat x with
  | .finite b =>
    let (num, den) := b.fraction
    some (mkRat (if b.negative then -(num : Int) else num) den)
  | _ => none

/-- Time as exact numbers; a budget below every number is as good as none. -/
instance : Clock Rat where
  zero := 0
  add := (· + ·)
  sub := (· - ·)
  le a b := decide (a ≤ b)
  ofMillis n := .ok (mkRat n 1000)
  ofSeconds x :=
    match Decimal.Reading.ofFloat x with
    | .infinite true => some (-1)
    | _ => rational? x
  wholeMillis t := (t * 1000).num.tdiv (t * 1000).den

end Clock

end BrowserFlow
