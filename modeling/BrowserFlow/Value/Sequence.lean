import BrowserFlow.Fault

/-!
Values taken as sequences: the items of a list, the characters of a text, the keys of a mapping.
-/
namespace BrowserFlow.Value
set_option autoImplicit false

/-- The parts of a value, in order. -/
def items? : Value → Option (List Value)
  | .list items => some items
  | .text s => some (s.toList.map fun c => .text (String.singleton c))
  | .mapping entries => some (entries.map (·.1))
  | .bytes bs => some (bs.map fun b => .int b.toNat)
  | _ => none

/-- The parts of a value; a value without parts is a fault. -/
def items (v : Value) : Except Fault (List Value) :=
  match v.items? with
  | some vs => .ok vs
  | none => .error (.notIterable v.kind)

/-- Whether a value may be a key. -/
def isKey : Value → Bool
  | .list _ | .mapping _ => false
  | .exotic e => e.isKey
  | _ => true

/-- The pairs that a list of keys with values is made of, the first of them at a position. -/
def pairsFrom (position : Nat) : List Value → Except Fault (List (Value × Value))
  | [] => .ok []
  | v :: vs =>
    match v.items? with
    | some [key, value] => do
      if !key.isKey then throw .wrongType
      let rest ← pairsFrom (position + 1) vs
      pure ((key, value) :: rest)
    | some parts => .error (.notAPair position parts.length)
    | none => .error .wrongType

/-- A mapping: a mapping itself, nothing at all, or a sequence of keys with values. -/
def toMapping (v : Value) : Except Fault Mapping :=
  match v with
  | .mapping entries => .ok entries
  | v =>
    if !v.isTruthy then .ok []
    else
      match v.items? with
      | some parts => (pairsFrom 0 parts).map Mapping.ofPairs
      | none => .error .wrongType

end BrowserFlow.Value
