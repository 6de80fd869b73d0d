/-!
Base64: three bytes become four characters, and padding fills the last group.
-/
namespace BrowserFlow.Text
set_option autoImplicit false

/-- The character of a six-bit group. -/
def base64Char (n : Nat) : Char :=
  if n < 26 then Char.ofNat (65 + n)
  else if n < 52 then Char.ofNat (97 + (n - 26))
  else if n < 62 then Char.ofNat (48 + (n - 52))
  else if n = 62 then '+'
  else '/'

def base64Chars : List UInt8 → List Char
  | [] => []
  | [a] =>
    let n := a.toNat * 16
    [base64Char (n / 64), base64Char (n % 64), '=', '=']
  | [a, b] =>
    let n := (a.toNat * 256 + b.toNat) * 4
    [base64Char (n / 4096), base64Char (n / 64 % 64), base64Char (n % 64), '=']
  | a :: b :: c :: rest =>
    let n := (a.toNat * 256 + b.toNat) * 256 + c.toNat
    base64Char (n / 262144) :: base64Char (n / 4096 % 64) :: base64Char (n / 64 % 64) ::
      base64Char (n % 64) :: base64Chars rest

/-- Bytes as base64 text. -/
def base64 (bs : List UInt8) : String := String.ofList (base64Chars bs)

/-- The six bits of a base64 character. -/
def base64Value? (c : Char) : Option Nat :=
  if c.isUpper then some (c.toNat - 65)
  else if c.isLower then some (c.toNat - 97 + 26)
  else if c.isDigit then some (c.toNat - 48 + 52)
  else if c = '+' then some 62
  else if c = '/' then some 63
  else none

/-- The state of a reading of base64: the bits that wait for more, how many characters of the
group have come, how much padding, and the bytes so far, last first. -/
structure Base64Reading where
  bits : Nat := 0
  position : Nat := 0
  padding : Nat := 0
  bytes : List UInt8 := []

/-- Takes a character that carries six bits. -/
def Base64Reading.take (r : Base64Reading) (n : Nat) : Base64Reading :=
  match r.position with
  | 0 => ⟨n, 1, 0, r.bytes⟩
  | 1 => ⟨n % 16, 2, 0, (r.bits * 4 + n / 16).toUInt8 :: r.bytes⟩
  | 2 => ⟨n % 4, 3, 0, (r.bits * 16 + n / 4).toUInt8 :: r.bytes⟩
  | _ => ⟨0, 0, 0, (r.bits * 64 + n).toUInt8 :: r.bytes⟩

/-- Reads characters up to the padding that completes a group. Characters outside the alphabet
are passed over, and so is padding that completes nothing. -/
def base64From (r : Base64Reading) : List Char → Option (List UInt8)
  | [] => if r.position = 0 then some r.bytes.reverse else none
  | c :: rest =>
    if c = '=' then
      if r.position < 2 then base64From r rest
      else if 4 ≤ r.position + r.padding + 1 then some r.bytes.reverse
      else base64From { r with padding := r.padding + 1 } rest
    else
      match base64Value? c with
      | some n => base64From (r.take n) rest
      | none => base64From r rest

/-- The bytes that base64 text stands for, none when a group is incomplete. -/
def base64Decode? (s : String) : Option (List UInt8) := base64From {} s.toList

end BrowserFlow.Text
