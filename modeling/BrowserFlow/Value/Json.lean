import BrowserFlow.Value.Display

/-!
Values as JSON text: a space after every comma and colon, and no escape that the format does not
ask for.
-/
namespace BrowserFlow.Json
set_option autoImplicit false

/-- One character inside a JSON string. -/
def escapeChar (c : Char) : List Char :=
  if c = '"' then ['\\', '"']
  else if c = '\\' then ['\\', '\\']
  else if c = '\n' then ['\\', 'n']
  else if c = '\r' then ['\\', 'r']
  else if c = '\t' then ['\\', 't']
  else if c.toNat = 8 then ['\\', 'b']
  else if c.toNat = 12 then ['\\', 'f']
  else if c.toNat < 32 then '\\' :: 'u' :: Text.hex 4 c.toNat
  else [c]

/-- A text as a JSON string. -/
def string (s : String) : String :=
  String.ofList ('"' :: s.toList.flatMap escapeChar ++ ['"'])

/-- A double as a JSON number, or as the name of a value that has no digits. -/
def number (x : Float) : String :=
  match Decimal.Reading.ofFloat x with
  | .notANumber => "NaN"
  | .infinite negative => if negative then "-Infinity" else "Infinity"
  | .finite _ => Decimal.Layout.exact.text x

/-- A key as text: JSON has no other keys. -/
def key : Value → String
  | .text s => s
  | .null => "null"
  | .bool b => if b then "true" else "false"
  | .float x => number x
  | v => v.display

mutual
/-- A value as JSON text; what JSON cannot express becomes the string of its display text. -/
def write : Value → String
  | .null => "null"
  | .bool b => if b then "true" else "false"
  | .int n => toString n
  | .float x => number x
  | .text s => string s
  | .list items => Value.enclosed "[" "]" (writeItems items)
  | .mapping entries => Value.enclosed "\x7b" "\x7d" (writeEntries entries)
  | .bytes bs => string (Value.display (.bytes bs))
  | .exotic e => string e.display

def writeItems : List Value → List String
  | [] => []
  | v :: vs => write v :: writeItems vs

def writeEntries : List (Value × Value) → List String
  | [] => []
  | (k, v) :: es => (string (key k) ++ ": " ++ write v) :: writeEntries es
end

end BrowserFlow.Json
