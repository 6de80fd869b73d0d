import BrowserFlow.Decimal.Numeral
import BrowserFlow.Fault
import BrowserFlow.Text.LowerCase

/-!
Reading block parameters. A parameter holds whatever its author wrote or a variable put there, so
each reading says what it does with values of every kind.
-/
namespace BrowserFlow.Parameter
set_option autoImplicit false

/-- The whole part of a double. -/
def truncate (x : Float) : Except Fault Int :=
  match Decimal.Reading.ofFloat x with
  | .finite b => .ok b.truncate
  | .infinite _ => .error .infinityToInt
  | .notANumber => .error .nanToInt

/-- The integer at the front of a text, as forms are read: `250ms` is 250. -/
def leadingInt? (s : String) : Option Int :=
  let (sign, rest) := match s.toList.dropWhile Text.isBlank with
    | '-' :: cs => ((-1 : Int), cs)
    | '+' :: cs => (1, cs)
    | cs => (1, cs)
  let digits := rest.takeWhile Text.isDigit
  if digits = [] then none else some (sign * Text.digitsValue digits)

/-- An integer: integers as they are, doubles without their fraction, texts by the integer in
front. Booleans, nothing, and texts without an integer give the default. -/
def int? (v : Value) (default : Option Int) : Except Fault (Option Int) :=
  match v with
  | .bool _ | .null => .ok default
  | .int n => .ok (some n)
  | .float x => (truncate x).map some
  | v => .ok ((leadingInt? v.display).or default)

/-- Words that switch a flag off. -/
def offWords : List String := ["false", "0", "no", "off"]

/-- A flag: nothing and the empty text give the default, numbers are on unless zero, texts are on
unless they are one of the words that switch off. -/
def flag (v : Value) (default : Bool) : Bool :=
  match v with
  | .null | .text "" => default
  | .bool b => b
  | .int n => n != 0
  | .float x => x != 0.0
  | v => !offWords.contains (Text.lower (Text.trim v.display))

/-- A choice from a list: trimmed and in lower case, the default when nothing is left. -/
def choice (v : Value) (default : String) : String :=
  match v with
  | .null => default
  | v =>
    let text := Text.lower (Text.trim v.display)
    if text = "" then default else text

end BrowserFlow.Parameter
