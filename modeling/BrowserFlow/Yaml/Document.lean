import BrowserFlow.Text.Base64
import BrowserFlow.Value.Display
import BrowserFlow.Value.Sequence
import BrowserFlow.Yaml.Layout
import BrowserFlow.Yaml.Node

/-!
Reading a YAML text as a value. A text that is no document, or a node that does not fit its tag,
is malformed; a few tags fail in ways of their own on texts they cannot read.
-/
namespace BrowserFlow.Yaml
set_option autoImplicit false

/-- Why a text gives no value. -/
inductive Refusal where
  | malformed
  /-- A fault that is not one of the format. -/
  | broken (f : Fault)

/-- Characters that a text may hold; controls and numbers without a character may not. -/
def isAllowed (c : Char) : Bool :=
  let n := c.toNat
  n == 9 || n == 10 || n == 13 || (32 ≤ n && n ≤ 126) || n == 133 || (160 ≤ n && n ≤ 0xD7FF) ||
    (0xE000 ≤ n && n ≤ 0xFFFD) || 0x10000 ≤ n

namespace Node

/-! ## Scalars -/

/-- A value, or the malformed text that gives none. -/
def orMalformed {α : Type} : Option α → Except Refusal α
  | some a => .ok a
  | none => .error .malformed

/-- The reading of a number, whose own faults are no matter of the format. -/
def numeral {α : Type} (make : α → Value) (r : Except Fault (Option α)) : Except Refusal Value :=
  match r with
  | .ok (some a) => .ok (make a)
  | .ok none => .error .malformed
  | .error f => .error (.broken f)

/-- The boolean that a word means, with the words that only a tag makes booleans. -/
def boolOf? (s : String) : Option Bool :=
  [("yes", true), ("no", false), ("true", true), ("false", false), ("on", true),
    ("off", false)].lookup (Text.lower s)

/-- The value of a date or time, which must be one of the calendar. -/
def timestampOf (cs : List Char) : Except Refusal Value :=
  match Timestamp.read? (if cs.getLast? == some '\n' then cs.dropLast else cs) with
  | some t => if t.isReal then .ok t.toValue else .error .malformed
  | none => .error (.broken (.missingAttribute "NoneType" "groupdict"))

/-- The value of a scalar. -/
def scalarValue (tag : Tag) (s : String) : Except Refusal Value :=
  match tag with
  | .null => .ok .null
  | .bool =>
    match boolOf? s with
    | some b => .ok (.bool b)
    | none => .error (.broken (.missingKey (Text.lower s)))
  | .int => numeral .int (int? s.toList)
  | .float => numeral .float (float? s.toList)
  | .bytes =>
    if s.toList.all fun c => c.toNat < 128 then
      orMalformed ((Text.base64Decode? s).map .bytes)
    else .error .malformed
  | .timestamp => timestampOf s.toList
  | .text => .ok (.text s)
  | _ => .error .malformed

/-- Whether a tag is for scalars. -/
def isScalarTag (tag : Tag) : Bool :=
  tag ∈ [.null, .bool, .int, .float, .bytes, .timestamp, .text]

mutual
/-- The text of a scalar, or of the value that a mapping has for the equals sign. -/
def text? : Node → Option String
  | .scalar _ s => some s
  | .mapping _ entries => textOfEntries? entries
  | _ => none

/-- The text of the first value whose key is an equals sign. -/
def textOfEntries? : List (Node × Node) → Option String
  | [] => none
  | (.scalar .equals _, value) :: _ => text? value
  | _ :: rest => textOfEntries? rest
end

/-- The value of a mapping that a tag makes a scalar. -/
def scalarOfEntries (tag : Tag) (entries : List (Node × Node)) : Except Refusal Value :=
  match textOfEntries? entries with
  | none => .error .malformed
  | some s =>
    if tag = .timestamp then
      .error
        (.broken (.reported .wrongType "expected string or bytes-like object, got 'list'" .null))
    else scalarValue tag s

/-! ## Collections -/

/-- A collection inside itself. -/
def recurring (isMapping : Bool) : Value :=
  let kind := if isMapping then "dict" else "list"
  let shown := if isMapping then "\x7b...\x7d" else "[...]"
  .exotic { kind, fullKind := kind, display := shown, quoted := shown, isKey := false }

/-- A key with its value, as the item of a list. -/
def pairValue (key value : Value) : Value :=
  let shown := Value.enclosed "(" ")" [key.inner, value.inner]
  .exotic { kind := "tuple", fullKind := "tuple", display := shown, quoted := shown }

/-- A set of keys. -/
def setValue (keys : Mapping) : Value :=
  let shown :=
    if keys.isEmpty then "set()"
    else Value.enclosed "\x7b" "\x7d" (keys.map fun e => e.1.inner)
  .exotic
    { kind := "set", fullKind := "set", display := shown, quoted := shown
      isEmpty := keys.isEmpty, isKey := false }

/-- A value as a key. -/
def asKey (v : Value) : Except Refusal Value := if v.isKey then .ok v else .error .malformed

/-- The pairs of a mapping: those it merges from others, which its own replace, and its own. -/
structure MergedPairs where
  merged : List (Value × Value) := []
  own : List (Value × Value) := []

/-- All pairs, in the order in which they take effect. -/
def MergedPairs.all (p : MergedPairs) : List (Value × Value) := p.merged ++ p.own

mutual
/-- The value of a node. -/
def value : Node → Except Refusal Value
  | .enclosing isMapping => .ok (recurring isMapping)
  | .scalar tag s => scalarValue tag s
  | .sequence tag items =>
    match tag with
    | .sequence => (values items).map .list
    | .orderedMapping | .pairs => (pairValues items).map .list
    | _ => .error .malformed
  | .mapping tag entries =>
    match tag with
    | .mapping => (pairsOf entries).map fun p => .mapping (Mapping.ofPairs p.all)
    | .set => (pairsOf entries).map fun p => setValue (Mapping.ofPairs p.all)
    | tag =>
      if isScalarTag tag then scalarOfEntries tag entries else .error .malformed

def values : List Node → Except Refusal (List Value)
  | [] => .ok []
  | n :: ns => do
    let v ← value n
    let vs ← values ns
    pure (v :: vs)

/-- The values of mappings with one entry each. -/
def pairValues : List Node → Except Refusal (List Value)
  | [] => .ok []
  | .mapping _ [(k, v)] :: ns => do
    let key ← value k
    let item ← value v
    let rest ← pairValues ns
    pure (pairValue key item :: rest)
  | _ :: _ => .error .malformed

/-- The pairs of the entries of a mapping. -/
def pairsOf : List (Node × Node) → Except Refusal MergedPairs
  | [] => .ok {}
  | (k, v) :: rest =>
    match k with
    | .scalar .merge _ | .sequence .merge _ | .mapping .merge _ => do
      let merged ← mergedFrom v
      let p ← pairsOf rest
      pure { p with merged := merged ++ p.merged }
    | .scalar .equals s => do
      let item ← value v
      let p ← pairsOf rest
      pure { p with own := (.text s, item) :: p.own }
    | k => do
      let key ← value k
      let key ← asKey key
      let item ← value v
      let p ← pairsOf rest
      pure { p with own := (key, item) :: p.own }

/-- The pairs that a mapping takes over from another one or from a sequence of others. -/
def mergedFrom : Node → Except Refusal (List (Value × Value))
  | .enclosing _ => .ok []
  | .mapping _ entries => (pairsOf entries).map MergedPairs.all
  | .sequence _ items => mergedFromAll items
  | .scalar _ _ => .error .malformed

/-- The pairs taken over from mappings, of which the first has the last word. -/
def mergedFromAll : List Node → Except Refusal (List (Value × Value))
  | [] => .ok []
  | .mapping _ entries :: ns => do
    let own ← pairsOf entries
    let rest ← mergedFromAll ns
    pure (rest ++ own.all)
  | .enclosing true :: ns => mergedFromAll ns
  | _ :: _ => .error .malformed
end

end Node

/-- The value of a text; an empty text has the value null. -/
def read (s : String) : Except Refusal Value :=
  let cs := s.toList
  if !cs.all isAllowed then .error .malformed
  else
    match (Token.ofText? cs).bind Node.ofTokens? with
    | none => .error .malformed
    | some none => .ok .null
    | some (some root) => root.value

end BrowserFlow.Yaml
