import BrowserFlow.Decimal.Shortest

/-!
How a double is written: positional or with an exponent, and with how many digits.
-/
namespace BrowserFlow.Decimal
set_option autoImplicit false

/-- The decisions of one way to write numbers. -/
structure Layout where
  /-- Exponents from here … -/
  positionalFrom : Int
  /-- … and below this are written positionally. -/
  positionalBelow : Int
  /-- Whether a whole number keeps a zero after the point. -/
  keepsPoint : Bool
  /-- `none` for the shortest text that reads back. -/
  significant : Option Nat

/-- Doubles inside values: the shortest text that reads back, with a point, positional below
`10 ^ 16`. -/
def Layout.exact : Layout := ⟨-4, 16, true, none⟩

/-- Durations inside messages: six significant digits, no empty fraction. -/
def Layout.brief : Layout := ⟨-4, 6, false, some 6⟩

def zeros (n : Nat) : String := String.ofList (List.replicate n '0')

/-- Digits with the point after the first `point` of them; `point` may lie outside the digits. -/
def positional (digits : List Char) (point : Int) (keepsPoint : Bool) : String :=
  if point ≤ 0 then "0." ++ zeros (-point).toNat ++ String.ofList digits
  else
    let whole := digits.take point.toNat
    let part := digits.drop point.toNat
    let text := String.ofList whole ++ zeros (point.toNat - whole.length)
    if part = [] then if keepsPoint then text ++ ".0" else text
    else text ++ "." ++ String.ofList part

/-- An exponent has a sign and at least two digits. -/
def exponentText (e : Int) : String :=
  let digits := toString e.natAbs
  (if e < 0 then "e-" else "e+") ++ (if digits.length < 2 then "0" ++ digits else digits)

/-- The first digit, a point if more follow, the other digits, and the exponent. -/
def scientific (digits : List Char) (e : Int) : String :=
  let part := digits.drop 1
  String.ofList (digits.take 1) ++ (if part = [] then "" else "." ++ String.ofList part) ++
    exponentText e

/-- A decimal as text. -/
def Layout.decimal (l : Layout) (d : Scientific) : String :=
  let digits := Nat.toDigits 10 d.digits
  let lead := d.exponent + digits.length - 1
  if d.digits = 0 then positional ['0'] 1 l.keepsPoint
  else if l.positionalFrom ≤ lead ∧ lead < l.positionalBelow then
    positional digits (lead + 1) l.keepsPoint
  else scientific digits lead

/-- A double as text. -/
def Layout.text (l : Layout) (x : Float) : String :=
  match Reading.ofFloat x with
  | .notANumber => "nan"
  | .infinite negative => if negative then "-inf" else "inf"
  | .finite b =>
    let d := match l.significant with
      | none => b.shortest
      | some n => b.nearest n
    (if b.negative then "-" else "") ++ l.decimal d

end BrowserFlow.Decimal
