import BrowserFlow.Decimal.Numeral
import BrowserFlow.Value

/-!
Reading JSON text. Numbers without point and exponent are integers of any size, the names of the
doubles without digits are allowed, and of two entries with one key the later gives the value.
-/
namespace BrowserFlow.Json
set_option autoImplicit false

/-- Blanks between the parts of a JSON text. -/
def isSpace (c : Char) : Bool := c == ' ' || c == '\t' || c == '\n' || c == '\r'

def skipSpace (cs : List Char) : List Char := cs.dropWhile isSpace

/-- An ASCII digit. -/
def isDigit (c : Char) : Bool := '0' ≤ c && c ≤ '9'

/-- Four hexadecimal digits. -/
def hex4? : List Char → Option (Nat × List Char)
  | a :: b :: c :: d :: rest =>
    match Text.hexValue? a, Text.hexValue? b, Text.hexValue? c, Text.hexValue? d with
    | some w, some x, some y, some z => some (((w * 16 + x) * 16 + y) * 16 + z, rest)
    | _, _, _, _ => none
  | _ => none

/-- The character of an escape that is one letter. -/
def letterEscape? (c : Char) : Option Char :=
  if c = '"' ∨ c = '\\' ∨ c = '/' then some c
  else if c = 'b' then some (Char.ofNat 8)
  else if c = 'f' then some (Char.ofNat 12)
  else if c = 'n' then some '\n'
  else if c = 'r' then some '\r'
  else if c = 't' then some '\t'
  else none

/-- The character of a numbered escape whose first four digits are `unit`. Two halves of a pair
make one character; a half on its own has no character and is replaced. -/
def numberedEscape (unit : Nat) (rest : List Char) : Char × List Char :=
  if 0xD800 ≤ unit && unit < 0xDC00 then
    match rest with
    | '\\' :: 'u' :: more =>
      match hex4? more with
      | some (low, after) =>
        if 0xDC00 ≤ low && low < 0xE000 then
          (Char.ofNat (0x10000 + (unit - 0xD800) * 0x400 + (low - 0xDC00)), after)
        else (Char.ofNat 0xFFFD, rest)
      | none => (Char.ofNat 0xFFFD, rest)
    | _ => (Char.ofNat 0xFFFD, rest)
  else if 0xDC00 ≤ unit && unit < 0xE000 then (Char.ofNat 0xFFFD, rest)
  else (Char.ofNat unit, rest)

/-- The rest of a string after its opening quote; `read` is what came so far, last first. -/
def stringRest? (fuel : Nat) (read : List Char) (cs : List Char) : Option (String × List Char) :=
  match fuel, cs with
  | fuel + 1, c :: rest =>
    if c = '"' then some (String.ofList read.reverse, rest)
    else if c = '\\' then
      match rest with
      | 'u' :: more =>
        match hex4? more with
        | some (unit, after) =>
          let (d, after) := numberedEscape unit after
          stringRest? fuel (d :: read) after
        | none => none
      | e :: more =>
        match letterEscape? e with
        | some d => stringRest? fuel (d :: read) more
        | none => none
      | [] => none
    else if c.toNat < 32 then none
    else stringRest? fuel (c :: read) rest
  | _, _ => none

/-- Digits after a point, when there are any. -/
def fractionPart (cs : List Char) : List Char × List Char :=
  match cs with
  | '.' :: rest =>
    if (rest.takeWhile isDigit) = [] then ([], cs)
    else (rest.takeWhile isDigit, rest.dropWhile isDigit)
  | _ => ([], cs)

/-- An exponent, when there is a complete one. -/
def exponentPart (cs : List Char) : Option Int × List Char :=
  match cs with
  | mark :: rest =>
    if mark = 'e' ∨ mark = 'E' then
      let (negative, digits) := Decimal.splitSign rest
      let ds := digits.takeWhile isDigit
      if ds = [] then (none, cs)
      else
        let n : Int := Text.digitsValue ds
        (some (if negative then -n else n), digits.dropWhile isDigit)
    else (none, cs)
  | [] => (none, cs)

/-- A number that begins with a digit. -/
def number? (negative : Bool) (cs : List Char) : Option (Value × List Char) :=
  let (whole, rest) := match cs with
    | '0' :: rest => (['0'], rest)
    | _ => (cs.takeWhile isDigit, cs.dropWhile isDigit)
  if whole = [] then none
  else
    let (part, rest) := fractionPart rest
    let (exponent, rest) := exponentPart rest
    if part = [] ∧ exponent = none then
      let n : Int := Text.digitsValue whole
      some (.int (if negative then -n else n), rest)
    else
      some (.float (Decimal.floatOfDecimal negative (Text.digitsValue (whole ++ part))
        (exponent.getD 0 - part.length)), rest)

/-- A word at the front of a text. -/
def word? (word : String) (cs : List Char) : Option (List Char) :=
  if word.toList.isPrefixOf cs then some (cs.drop word.length) else none

/-- A value that is neither a string nor a collection. -/
def atom? (cs : List Char) : Option (Value × List Char) :=
  match word? "null" cs with
  | some rest => some (.null, rest)
  | none =>
  match word? "true" cs with
  | some rest => some (.bool true, rest)
  | none =>
  match word? "false" cs with
  | some rest => some (.bool false, rest)
  | none =>
  match word? "NaN" cs with
  | some rest => some (.float (0.0 / 0.0), rest)
  | none =>
  match word? "Infinity" cs with
  | some rest => some (.float (1.0 / 0.0), rest)
  | none =>
  match word? "-Infinity" cs with
  | some rest => some (.float (-1.0 / 0.0), rest)
  | none =>
  match cs with
  | '-' :: rest => number? true rest
  | _ => number? false cs

mutual
/-- The value at the front of a text. -/
def value? (fuel : Nat) (cs : List Char) : Option (Value × List Char) :=
  match fuel with
  | 0 => none
  | fuel + 1 =>
    match cs with
    | '"' :: rest => (stringRest? (rest.length + 1) [] rest).map fun (s, r) => (.text s, r)
    | '[' :: rest =>
      match skipSpace rest with
      | ']' :: after => some (.list [], after)
      | inside => (items? fuel [] inside).map fun (vs, r) => (.list vs, r)
    | '\x7b' :: rest =>
      match skipSpace rest with
      | '\x7d' :: after => some (.mapping [], after)
      | inside => (entries? fuel [] inside).map fun (es, r) => (.mapping es, r)
    | _ => atom? cs

/-- Items up to the closing bracket; `read` is what came so far, last first. -/
def items? (fuel : Nat) (read : List Value) (cs : List Char) :
    Option (List Value × List Char) :=
  match fuel with
  | 0 => none
  | fuel + 1 =>
    match value? fuel (skipSpace cs) with
    | some (v, rest) =>
      match skipSpace rest with
      | ',' :: more => items? fuel (v :: read) (skipSpace more)
      | ']' :: after => some ((v :: read).reverse, after)
      | _ => none
    | none => none

/-- Entries up to the closing brace. -/
def entries? (fuel : Nat) (read : Mapping) (cs : List Char) : Option (Mapping × List Char) :=
  match fuel with
  | 0 => none
  | fuel + 1 =>
    match cs with
    | '"' :: rest =>
      match stringRest? (rest.length + 1) [] rest with
      | some (key, rest) =>
        match skipSpace rest with
        | ':' :: more =>
          match value? fuel (skipSpace more) with
          | some (v, rest) =>
            let read := Mapping.insert read (.text key) v
            match skipSpace rest with
            | ',' :: more => entries? fuel read (skipSpace more)
            | '\x7d' :: after => some (read, after)
            | _ => none
          | none => none
        | _ => none
      | none => none
    | _ => none
end

/-- Reads a whole text as one JSON value; every nesting level and every item takes a character,
so the length of the text bounds the depth. -/
def read? (s : String) : Option Value :=
  let cs := s.toList
  match value? (cs.length + 1) (skipSpace cs) with
  | some (v, rest) => if skipSpace rest = [] then some v else none
  | none => none

end BrowserFlow.Json
