import BrowserFlow.Value

/-!
Equality of values is decidable: two values are equal when they are built alike. Doubles are
compared by what they stand for, so a value that is not a number equals itself.
-/
namespace BrowserFlow.Value
set_option autoImplicit false

mutual
/-- Decides whether two values are equal. -/
def decideEq : (a b : Value) → Decidable (a = b)
  | .null, .null => isTrue rfl
  | .bool a, .bool b => if h : a = b then isTrue (by rw [h]) else isFalse (by simp [h])
  | .int a, .int b => if h : a = b then isTrue (by rw [h]) else isFalse (by simp [h])
  | .float a, .float b => if h : a = b then isTrue (by rw [h]) else isFalse (by simp [h])
  | .text a, .text b => if h : a = b then isTrue (by rw [h]) else isFalse (by simp [h])
  | .bytes a, .bytes b => if h : a = b then isTrue (by rw [h]) else isFalse (by simp [h])
  | .exotic a, .exotic b => if h : a = b then isTrue (by rw [h]) else isFalse (by simp [h])
  | .list a, .list b =>
    match decideEqItems a b with
    | isTrue h => isTrue (by rw [h])
    | isFalse h => isFalse (by simp [h])
  | .mapping a, .mapping b =>
    match decideEqEntries a b with
    | isTrue h => isTrue (by rw [h])
    | isFalse h => isFalse (by simp [h])
  | .null, .bool _ | .null, .int _ | .null, .float _ | .null, .text _ | .null, .bytes _
  | .null, .list _ | .null, .mapping _ | .null, .exotic _ => isFalse (by simp)
  | .bool _, .null | .bool _, .int _ | .bool _, .float _ | .bool _, .text _ | .bool _, .bytes _
  | .bool _, .list _ | .bool _, .mapping _ | .bool _, .exotic _ => isFalse (by simp)
  | .int _, .null | .int _, .bool _ | .int _, .float _ | .int _, .text _ | .int _, .bytes _
  | .int _, .list _ | .int _, .mapping _ | .int _, .exotic _ => isFalse (by simp)
  | .float _, .null | .float _, .bool _ | .float _, .int _ | .float _, .text _
  | .float _, .bytes _ | .float _, .list _ | .float _, .mapping _
  | .float _, .exotic _ => isFalse (by simp)
  | .text _, .null | .text _, .bool _ | .text _, .int _ | .text _, .float _ | .text _, .bytes _
  | .text _, .list _ | .text _, .mapping _ | .text _, .exotic _ => isFalse (by simp)
  | .bytes _, .null | .bytes _, .bool _ | .bytes _, .int _ | .bytes _, .float _
  | .bytes _, .text _ | .bytes _, .list _ | .bytes _, .mapping _
  | .bytes _, .exotic _ => isFalse (by simp)
  | .list _, .null | .list _, .bool _ | .list _, .int _ | .list _, .float _ | .list _, .text _
  | .list _, .bytes _ | .list _, .mapping _ | .list _, .exotic _ => isFalse (by simp)
  | .mapping _, .null | .mapping _, .bool _ | .mapping _, .int _ | .mapping _, .float _
  | .mapping _, .text _ | .mapping _, .bytes _ | .mapping _, .list _
  | .mapping _, .exotic _ => isFalse (by simp)
  | .exotic _, .null | .exotic _, .bool _ | .exotic _, .int _ | .exotic _, .float _
  | .exotic _, .text _ | .exotic _, .bytes _ | .exotic _, .list _
  | .exotic _, .mapping _ => isFalse (by simp)

def decideEqItems : (a b : List Value) → Decidable (a = b)
  | [], [] => isTrue rfl
  | x :: xs, y :: ys =>
    match decideEq x y, decideEqItems xs ys with
    | isTrue h, isTrue g => isTrue (by rw [h, g])
    | isFalse h, _ => isFalse (by simp [h])
    | _, isFalse h => isFalse (by simp [h])
  | [], _ :: _ | _ :: _, [] => isFalse (by simp)

def decideEqEntries : (a b : List (Value × Value)) → Decidable (a = b)
  | [], [] => isTrue rfl
  | (k, x) :: xs, (l, y) :: ys =>
    match decideEq k l, decideEq x y, decideEqEntries xs ys with
    | isTrue h, isTrue g, isTrue f => isTrue (by rw [h, g, f])
    | isFalse h, _, _ => isFalse (by simp [h])
    | _, isFalse h, _ => isFalse (by simp [h])
    | _, _, isFalse h => isFalse (by simp [h])
  | [], _ :: _ | _ :: _, [] => isFalse (by simp)
end

instance : DecidableEq Value := decideEq

end BrowserFlow.Value
