import BrowserFlow.Text.Utf8
import BrowserFlow.Text.WordChar
import BrowserFlow.Value.Json
import BrowserFlow.Variables.Store

/-!
Templates: texts with references to variables. A template is cut once, from the left, into
literal characters and references; each piece is then replaced by what it stands for, so no
character that comes from a value is ever read as part of a reference.
-/
namespace BrowserFlow
set_option autoImplicit false

/-- A piece of a template. -/
inductive Token where
  | literal (c : Char)
  /-- A name in braces after a dollar sign: the value, or nothing when there is none. -/
  | braced (name : String)
  /-- A name after a star: the value, or the reference itself when there is none. -/
  | starred (name : String)
  deriving DecidableEq, Repr

namespace Token

/-- The characters that a piece was cut from. -/
def source : Token → List Char
  | literal c => [c]
  | braced name => '$' :: '\x7b' :: name.toList ++ ['\x7d']
  | starred name => '*' :: name.toList

/-- The longest reference at the front of a text, with what follows it. -/
def reference? : List Char → Option (Token × List Char)
  | '$' :: '\x7b' :: rest =>
    let name := rest.takeWhile Text.isWordChar
    match name, rest.dropWhile Text.isWordChar with
    | _ :: _, '\x7d' :: after => some (braced (String.ofList name), after)
    | _, _ => none
  | '*' :: rest =>
    let name := rest.takeWhile Text.isWordChar
    if name = [] then none
    else some (starred (String.ofList name), rest.dropWhile Text.isWordChar)
  | _ => none

/-- Cuts a text, `skip` characters of which belong to the piece before. -/
def cutFrom (skip : Nat) : List Char → List Token
  | [] => []
  | c :: rest =>
    match skip with
    | k + 1 => cutFrom k rest
    | 0 =>
      match reference? (c :: rest) with
      | some (t, after) => t :: cutFrom (rest.length - after.length) rest
      | none => literal c :: cutFrom 0 rest

/-- The pieces of a template. -/
def cut (s : String) : List Token := cutFrom 0 s.toList

end Token

namespace Template

/-- A value inside a text: texts as they are, bytes decoded, collections as JSON. -/
def render : Value → String
  | .bool b => if b then "true" else "false"
  | .int n => toString n
  | .float x => Decimal.Layout.exact.text x
  | .text s => s
  | .bytes bs => Text.utf8DecodeReplacing bs
  | v => Json.write v

/-- The value of a name, unless it is missing or null. -/
def bound? (store : Store) (name : String) : Option Value :=
  match store.get? name with
  | some .null | none => none
  | some v => some v

/-- What a piece stands for. -/
def expand (store : Store) : Token → String
  | .literal c => String.singleton c
  | .braced name =>
    match bound? store name with
    | some v => render v
    | none => ""
  | .starred name =>
    match bound? store name with
    | some v => render v
    | none => String.ofList (Token.starred name).source

/-- A text with its references replaced. -/
def fill (store : Store) (s : String) : String :=
  String.join ((Token.cut s).map (expand store))

/-- A value with its references replaced; values that are not texts have none. -/
def interpolate (store : Store) : Value → Value
  | .text s => .text (fill store s)
  | v => v

/-- Every parameter with its references replaced. -/
def interpolateAll (store : Store) (params : Mapping) : Mapping :=
  params.map fun e => (e.1, interpolate store e.2)

end Template

end BrowserFlow
