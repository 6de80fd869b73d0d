import BrowserFlow.Decimal.Binary

/-!
The shortest decimal that reads back as a given double, and the decimal with a given number of
significant digits that is nearest to it.
-/
namespace BrowserFlow.Decimal
set_option autoImplicit false

/-- The number `digits · 10 ^ exponent`. -/
structure Scientific where
  digits : Nat
  exponent : Int
  deriving DecidableEq, Repr

/-- How many decimal digits a natural number has; none for zero. -/
def width (n : Nat) : Nat := if n = 0 then 0 else (Nat.toDigits 10 n).length

/-- The place of the leading digit of `num / den`: the greatest `e` with `10 ^ e ≤ num / den`. -/
def leadingPlace (num den : Nat) : Int :=
  if den ≤ num then (width (num / den) : Int) - 1
  else -(width ((den + num - 1) / num - 1) : Int)

/-- `num / den` measured in units of `10 ^ place`. -/
def inUnits (num den : Nat) (place : Int) : Nat × Nat :=
  (num * tens (-place).toNat, den * tens place.toNat)

/-- The same number with no zero at the end of its digits. -/
def Scientific.normalize (d : Scientific) : Scientific :=
  let rec strip : Nat → Nat → Int → Scientific
    | 0, n, e => ⟨n, e⟩
    | fuel + 1, n, e => if n ≠ 0 ∧ n % 10 = 0 then strip fuel (n / 10) (e + 1) else ⟨n, e⟩
  strip (width d.digits) d.digits d.exponent

/-- The numbers that round to a double, as multiples of a quarter of its last place. -/
structure Rounding where
  low : Nat
  value : Nat
  high : Nat
  /-- The quarter of the last place is `2 ^ quarter`. -/
  quarter : Int
  /-- Whether the ends round to the double as well. -/
  closed : Bool

/-- Below a power of two the neighbours are twice as dense. -/
def Binary.rounding (b : Binary) : Rounding :=
  let m := b.significand
  let low := if m = twos 52 ∧ b.exponent > -1074 then 4 * m - 1 else 4 * m - 2
  ⟨low, 4 * m, 4 * m + 2, b.exponent - 2, m % 2 == 0⟩

/-- The point of the grid `10 ^ place` that lies in the interval, the nearer of two, the even one
when both are equally near. -/
def Rounding.onGrid? (r : Rounding) (place : Int) : Option Scientific :=
  let scale := twos r.quarter.toNat * tens (-place).toNat
  let unit := twos (-r.quarter).toNat * tens place.toNat
  let inside (n : Nat) : Bool :=
    if r.closed then r.low * scale ≤ n * unit && n * unit ≤ r.high * scale
    else r.low * scale < n * unit && n * unit < r.high * scale
  let below := r.value * scale / unit
  let above := below + 1
  let belowGap := r.value * scale - below * unit
  let aboveGap := above * unit - r.value * scale
  match inside below, inside above with
  | true, true =>
    let takeBelow := belowGap < aboveGap || (belowGap == aboveGap && below % 2 == 0)
    some ⟨if takeBelow then below else above, place⟩
  | true, false => some ⟨below, place⟩
  | false, true => some ⟨above, place⟩
  | false, false => none

/-- The fewest digits that read back as the number; seventeen always do. -/
def Binary.shortest (b : Binary) : Scientific :=
  if b.significand = 0 then ⟨0, 0⟩
  else
    let lead := leadingPlace b.fraction.1 b.fraction.2
    match (List.range 17).findSome? fun (n : Nat) => b.rounding.onGrid? (lead - n) with
    | some d => d.normalize
    | none => ⟨b.significand, 0⟩

/-- The nearest decimal with at most `count` significant digits, halves to the even neighbour. -/
def Binary.nearest (b : Binary) (count : Nat) : Scientific :=
  if b.significand = 0 then ⟨0, 0⟩
  else
    let place := leadingPlace b.fraction.1 b.fraction.2 - ((count : Int) - 1)
    let (num, den) := inUnits b.fraction.1 b.fraction.2 place
    let down := num / den
    let twice := 2 * (num % den)
    let digits := if twice < den || (twice == den && down % 2 == 0) then down else down + 1
    Scientific.normalize ⟨digits, place⟩

end BrowserFlow.Decimal
