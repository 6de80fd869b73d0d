/-!
A double as an exact number: a natural number times a power of two, with its sign.
-/
namespace BrowserFlow.Decimal
set_option autoImplicit false

/-- A power of two. -/
def twos (k : Nat) : Nat := Nat.pow 2 k

/-- A power of ten. -/
def tens (k : Nat) : Nat := Nat.pow 10 k

/-- The number `significand · 2 ^ exponent`, negated when `negative` holds. -/
structure Binary where
  negative : Bool
  significand : Nat
  exponent : Int
  deriving DecidableEq, Repr

/-- What the bits of a double stand for. -/
inductive Reading where
  | finite (value : Binary)
  | infinite (negative : Bool)
  | notANumber
  deriving DecidableEq, Repr

/-- Splits a double into sign, exponent and fraction; subnormal numbers keep the least exponent. -/
def Reading.ofFloat (x : Float) : Reading :=
  let bits := x.toBits.toNat
  let negative := decide (twos 63 ≤ bits)
  let scale : Nat := bits / twos 52 % 2048
  let fraction : Nat := bits % twos 52
  if scale = 2047 then
    if fraction = 0 then .infinite negative else .notANumber
  else if scale = 0 then .finite ⟨negative, fraction, -1074⟩
  else .finite ⟨negative, twos 52 + fraction, (scale : Int) - 1075⟩

/-- The magnitude as a fraction of natural numbers. -/
def Binary.fraction (b : Binary) : Nat × Nat :=
  (b.significand * twos b.exponent.toNat, twos (-b.exponent).toNat)

/-- The number without its fractional part. -/
def Binary.truncate (b : Binary) : Int :=
  let (num, den) := b.fraction
  if b.negative then -((num / den : Nat) : Int) else ((num / den : Nat) : Int)

/-- The nearest integer, halves to the even neighbour. -/
def Binary.round (b : Binary) : Int :=
  let (num, den) := b.fraction
  let down := num / den
  let twice := 2 * (num % den)
  let nearest := if twice < den || (twice == den && down % 2 == 0) then down else down + 1
  if b.negative then -(nearest : Int) else (nearest : Int)

/-- The double nearest to an integer, `none` when the integer is beyond every double. -/
def floatOfInt? (n : Int) : Option Float :=
  let magnitude := Float.ofScientific n.natAbs false 0
  if magnitude.isInf then none else some (if n < 0 then -magnitude else magnitude)

/-- Whether a double is exactly the given integer. -/
def isInteger (x : Float) (n : Int) : Bool :=
  match Reading.ofFloat x with
  | .finite b => b.fraction.1 % b.fraction.2 == 0 && b.truncate == n
  | _ => false

end BrowserFlow.Decimal
