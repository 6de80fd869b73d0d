import BrowserFlow.Decimal.Binary

/-!
The values that flows, variables and pages exchange, and mappings that keep the order in which
their keys came.
-/
namespace BrowserFlow
set_option autoImplicit false

/-- A value of a kind for which flows have no use, such as a date in a flow file: it is known by
the name of its kind and by the texts that stand for it. -/
structure Exotic where
  /-- The short name of the kind. -/
  kind : String
  /-- The name of the kind with the family it belongs to. -/
  fullKind : String
  /-- The text of the value on its own. -/
  display : String
  /-- The text of the value inside another one. -/
  quoted : String
  /-- Whether it is a collection without members. -/
  isEmpty : Bool := false
  /-- Whether it may be a key. -/
  isKey : Bool := true
  deriving DecidableEq, Repr, Inhabited

/-- A value. Integers have any size and are never booleans; a mapping keeps its order. -/
inductive Value where
  | null
  | bool (b : Bool)
  | int (n : Int)
  | float (x : Float)
  | text (s : String)
  | bytes (bs : List UInt8)
  | list (items : List Value)
  | mapping (entries : List (Value × Value))
  | exotic (e : Exotic)
  deriving Inhabited, Repr

/-- Keys with their values, in order. -/
abbrev Mapping := List (Value × Value)

namespace Value

/-- Whether a value counts as present: zero, nothing and empty collections do not. -/
def isTruthy : Value → Bool
  | null => false
  | bool b => b
  | int n => n != 0
  | float x => x != 0.0
  | text s => s != ""
  | bytes bs => bs != []
  | list items => !items.isEmpty
  | mapping entries => !entries.isEmpty
  | exotic e => !e.isEmpty

/-- The integer that a key is as good as, when it is a number without a fraction. -/
def keyNumber? : Value → Option Int
  | bool b => some (if b then 1 else 0)
  | int n => some n
  | float x =>
    match Decimal.Reading.ofFloat x with
    | .finite b => if Decimal.isInteger x b.truncate then some b.truncate else none
    | _ => none
  | _ => none

/-- Whether two values are the same key. Numbers of different kinds are the same key when they
are equal. -/
def sameKey (a b : Value) : Bool :=
  match a, b with
  | text s, text t => s == t
  | null, null => true
  | float x, float y => x == y
  | bytes s, bytes t => s == t
  | exotic e, exotic f => e == f
  | _, _ =>
    match keyNumber? a, keyNumber? b with
    | some m, some n => m == n
    | _, _ => false

end Value

namespace Mapping

/-- The value of a key. -/
def get? (m : Mapping) (key : Value) : Option Value :=
  (m.find? fun e => e.1.sameKey key).map (·.2)

/-- The value of a key that is a text. -/
def named? (m : Mapping) (name : String) : Option Value := get? m (.text name)

/-- The value of a key that is a text, null when there is none. -/
def named (m : Mapping) (name : String) : Value := (named? m name).getD .null

/-- Gives a key a value. A key that is present keeps its place and its spelling. -/
def insert : Mapping → Value → Value → Mapping
  | [], key, value => [(key, value)]
  | (k, v) :: rest, key, value =>
    if k.sameKey key then (k, value) :: rest else (k, v) :: insert rest key value

/-- The mapping that a list of keys and values builds up, a later value replacing an earlier. -/
def ofPairs (pairs : List (Value × Value)) : Mapping :=
  pairs.foldl (fun m e => insert m e.1 e.2) []

end Mapping

namespace Value

/-- A mapping with text keys. -/
def record (fields : List (String × Value)) : Value :=
  mapping (fields.map fun f => (text f.1, f.2))

/-- A text, or null when there is none. -/
def ofText? : Option String → Value
  | some s => text s
  | none => null

/-- The short name of the kind of a value. -/
def kind : Value → String
  | null => "NoneType"
  | bool _ => "bool"
  | int _ => "int"
  | float _ => "float"
  | text _ => "str"
  | bytes _ => "bytes"
  | list _ => "list"
  | mapping _ => "dict"
  | exotic e => e.kind

/-- The name of the kind of a value with the family it belongs to. -/
def fullKind : Value → String
  | exotic e => e.fullKind
  | v => v.kind

end Value

end BrowserFlow
