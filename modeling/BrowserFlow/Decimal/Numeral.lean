import BrowserFlow.Decimal.Shortest
import BrowserFlow.Text.Blank
import BrowserFlow.Text.Digit

/-!
Numbers written as text: a sign, decimal digits of any script, single underscores between digits,
and for doubles a point, an exponent, or one of the names of the values that have no digits.
-/
namespace BrowserFlow.Decimal
set_option autoImplicit false

open BrowserFlow.Text

/-- The double nearest to `digits · 10 ^ exponent`. -/
def floatOfDecimal (negative : Bool) (digits : Nat) (exponent : Int) : Float :=
  let lead := exponent + width digits
  let magnitude : Float :=
    if digits = 0 ∨ lead < -400 then 0.0
    else if lead > 400 then 1.0 / 0.0
    else Float.ofScientific digits (decide (exponent < 0)) exponent.natAbs
  if negative then -magnitude else magnitude

/-- Blanks that may surround a number; the separator controls are not among them. -/
def isMargin (c : Char) : Bool :=
  (9 ≤ c.toNat && c.toNat ≤ 13) || c == ' ' || (127 ≤ c.toNat && isBlank c)

/-- The text between its margins. -/
def withoutMargins (cs : List Char) : List Char :=
  ((cs.dropWhile isMargin).reverse.dropWhile isMargin).reverse

/-- Splits a sign off; the first component tells whether it is a minus. -/
def splitSign : List Char → Bool × List Char
  | '-' :: cs => (true, cs)
  | '+' :: cs => (false, cs)
  | cs => (false, cs)

/-- The characters without their underscores, provided each underscore stands between digits. -/
def dropUnderscores? : List Char → Option (List Char)
  | [] => some []
  | c :: '_' :: d :: cs =>
    if c = '_' then none
    else if isDigit c && isDigit d then (dropUnderscores? (d :: cs)).map (c :: ·)
    else none
  | c :: cs => if c = '_' then none else (dropUnderscores? cs).map (c :: ·)

/-- Reads an integer. -/
def readInt? (cs : List Char) : Option Int :=
  let (negative, digits) := splitSign (withoutMargins cs)
  match dropUnderscores? digits with
  | some ds =>
    if ds ≠ [] ∧ ds.all isDigit then
      some (if negative then -(digitsValue ds : Int) else (digitsValue ds : Int))
    else none
  | none => none

/-- Reads the exponent of a double; no text at all is the exponent zero. -/
def readExponent? : List Char → Option Int
  | [] => some 0
  | mark :: cs =>
    if mark = 'e' ∨ mark = 'E' then
      let (negative, ds) := splitSign cs
      if ds ≠ [] ∧ ds.all isDigit then
        some (if negative then -(digitsValue ds : Int) else (digitsValue ds : Int))
      else none
    else none

/-- Reads digits, an optional point with more digits, and an optional exponent. -/
def readMagnitude? (negative : Bool) (cs : List Char) : Option Float :=
  let whole := cs.takeWhile isDigit
  let afterWhole := cs.dropWhile isDigit
  let (part, rest) := match afterWhole with
    | '.' :: more => (more.takeWhile isDigit, more.dropWhile isDigit)
    | _ => ([], afterWhole)
  if whole = [] ∧ part = [] then none
  else (readExponent? rest).map fun e =>
    floatOfDecimal negative (digitsValue (whole ++ part)) (e - part.length)

/-- The value that a name stands for. -/
def namedFloat? (negative : Bool) (cs : List Char) : Option Float :=
  let name := String.ofList (cs.map Char.toLower)
  if name = "inf" ∨ name = "infinity" then
    some (if negative then -(1.0 / 0.0) else 1.0 / 0.0)
  else if name = "nan" then some (0.0 / 0.0)
  else none

/-- Reads a double. -/
def readFloat? (cs : List Char) : Option Float :=
  match dropUnderscores? (withoutMargins cs) with
  | some text =>
    let (negative, body) := splitSign text
    match namedFloat? negative body with
    | some x => some x
    | none => readMagnitude? negative body
  | none => none

end BrowserFlow.Decimal
