import BrowserFlow.Fault
import BrowserFlow.Decimal.Numeral
import BrowserFlow.Text.LowerCase

/-!
Numbers as YAML writes them: integers in four bases, numbers in groups of sixty, and names for
the doubles that have no digits. Underscores mean nothing.
-/
namespace BrowserFlow.Yaml
set_option autoImplicit false

/-! ## The forms of unmarked numbers -/

def isDigitOrLow (c : Char) : Bool := c.isDigit || c == '_'

/-- Whether a text is digits and underscores that begin with a digit. -/
def isDigits : List Char → Bool
  | [] => false
  | c :: cs => c.isDigit && cs.all isDigitOrLow

/-- The parts of a text between marks. -/
def splitAt (mark : Char) (part : List Char) : List Char → List (List Char)
  | [] => [part]
  | c :: cs => if c = mark then part :: splitAt mark [] cs else splitAt mark (part ++ [c]) cs

/-- A digit of base sixty, in one or two decimal digits. -/
def isSixtieth : List Char → Bool
  | [a] => a.isDigit
  | [a, b] => a.isDigit && decide (a < '6') && b.isDigit
  | _ => false

/-- Whether a text is two or more groups of base sixty, the first of which satisfies a condition. -/
def isSexagesimal (first : List Char → Bool) (cs : List Char) : Bool :=
  match splitAt ':' [] cs with
  | part :: more => first part && !more.isEmpty && more.all isSixtieth
  | [] => false

/-- An exponent, which must have a sign, or nothing at all. -/
def isExponent : List Char → Bool
  | [] => true
  | [_] => false
  | mark :: sign :: ds =>
    (mark == 'e' || mark == 'E') && (sign == '+' || sign == '-') && !ds.isEmpty &&
      ds.all Char.isDigit

/-- Whether a text is an unmarked double. -/
def isPlainFloat (cs : List Char) : Bool :=
  let (_, body) := Decimal.splitSign cs
  let whole := body.takeWhile (· ≠ '.')
  match body.dropWhile (· ≠ '.') with
  | '.' :: part =>
    let tail := part.dropWhile isDigitOrLow
    (isDigits whole && isExponent tail) ||
      (isSexagesimal isDigits whole && tail.isEmpty) ||
      (whole.isEmpty && (part == ['i', 'n', 'f'] || part == ['I', 'n', 'f'] ||
        part == ['I', 'N', 'F'])) ||
      (cs.head? == some '.' && ((isDigits (part.takeWhile isDigitOrLow) && isExponent tail) ||
        part == ['n', 'a', 'n'] || part == ['N', 'a', 'N'] || part == ['N', 'A', 'N']))
  | _ => false

/-- Whether a text is digits that begin with another digit than zero. -/
def isPositive : List Char → Bool
  | [] => false
  | c :: cs => c.isDigit && c != '0' && cs.all isDigitOrLow

/-- Whether a text is an unmarked integer. -/
def isPlainInt (cs : List Char) : Bool :=
  let (_, body) := Decimal.splitSign cs
  match body with
  | ['0'] => true
  | '0' :: 'b' :: ds => !ds.isEmpty && ds.all fun c => c ∈ ['0', '1', '_']
  | '0' :: 'x' :: ds => !ds.isEmpty && ds.all fun c => (Text.hexValue? c).isSome || c == '_'
  | '0' :: ds => ds.all fun c => ('0' ≤ c && c ≤ '7') || c == '_'
  | _ => isPositive body || isSexagesimal isPositive body

/-! ## Values -/

/-- Why a number could not be read. -/
def emptyNumber : Fault := .reported .missingIndex "string index out of range" .null

/-- The value of a digit in bases up to sixteen. -/
def digitIn? (base : Nat) (c : Char) : Option Nat :=
  match (Text.digitValue? c).or (Text.hexValue? c) with
  | some d => if d < base then some d else none
  | none => none

/-- The number that digits of a base denote, `n` being that of the digits before them. -/
def numberIn? (base n : Nat) : List Char → Option Nat
  | [] => some n
  | c :: cs => (digitIn? base c).bind fun d => numberIn? base (base * n + d) cs

/-- An integer in a base, whose digits may follow a zero and a letter. -/
def readIn? (base : Nat) (letter : Char) (cs : List Char) : Option Int :=
  let (negative, body) := Decimal.splitSign (Decimal.withoutMargins cs)
  let ds := match body with
    | '0' :: mark :: rest => if mark.toLower = letter then rest else body
    | _ => body
  if ds = [] then none
  else (numberIn? base 0 ds).map fun n => if negative then -(n : Int) else n

/-- The integer whose digits in base sixty are given, first digit first. -/
def sixties (ns : List Int) : Int := ns.foldl (fun total n => 60 * total + n) 0

/-- Reads an integer; `none` is a text that is none. -/
def int? (cs : List Char) : Except Fault (Option Int) :=
  let (negative, body) := Decimal.splitSign (cs.filter (· ≠ '_'))
  let magnitude : Option Int := match body with
    | ['0'] => some 0
    | '0' :: 'b' :: ds => readIn? 2 'b' ds
    | '0' :: 'x' :: ds => readIn? 16 'x' ds
    | '0' :: _ => readIn? 8 'o' body
    | _ =>
      if body.contains ':' then ((splitAt ':' [] body).mapM Decimal.readInt?).map sixties
      else Decimal.readInt? body
  if body = [] then .error emptyNumber
  else .ok (magnitude.map fun n => if negative then -n else n)

/-- The sum of digits in base sixty, last digit first, each times its power. -/
def weightedSum (power : Int) (total : Float) : List Float → Except Fault Float
  | [] => .ok total
  | x :: xs =>
    match Decimal.floatOfInt? power with
    | some p => weightedSum (60 * power) (total + x * p) xs
    | none => .error .intTooLarge

/-- Reads a double; `none` is a text that is none. -/
def float? (cs : List Char) : Except Fault (Option Float) := do
  let lowered := (Text.lower (String.ofList (cs.filter (· ≠ '_')))).toList
  if lowered = [] then throw emptyNumber
  let (negative, body) := Decimal.splitSign lowered
  let magnitude : Option Float ←
    if body = ['.', 'i', 'n', 'f'] then pure (some (1.0 / 0.0))
    else if body = ['.', 'n', 'a', 'n'] then pure (some (0.0 / 0.0))
    else if body.contains ':' then
      match (splitAt ':' [] body).mapM Decimal.readFloat? with
      | some xs => (weightedSum 1 0.0 xs.reverse).map some
      | none => pure none
    else pure (Decimal.readFloat? body)
  pure (magnitude.map fun x => if negative then -x else x)

end BrowserFlow.Yaml
