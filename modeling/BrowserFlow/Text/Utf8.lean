/-!
UTF-8. A reading of bytes either refuses malformed input or puts the replacement character in
place of each longest piece that could have begun a character.
-/
namespace BrowserFlow.Text
set_option autoImplicit false

/-- The first step of a reading: a character, or a malformed piece, and how many bytes it takes. -/
inductive Utf8Step where
  | char (c : Char) (size : Nat)
  | malformed (size : Nat)

/-- A byte that continues a character. -/
def isContinuation (b : UInt8) : Bool := 0x80 ≤ b && b < 0xC0

/-- The bytes that may follow a first byte; the bounds shut out overlong forms, surrogates and
numbers beyond the last code point. -/
def secondBounds (first : UInt8) : UInt8 × UInt8 :=
  if first = 0xE0 then (0xA0, 0xBF)
  else if first = 0xED then (0x80, 0x9F)
  else if first = 0xF0 then (0x90, 0xBF)
  else if first = 0xF4 then (0x80, 0x8F)
  else (0x80, 0xBF)

/-- How many bytes a character with this first byte has; zero when none has. -/
def utf8Length (first : UInt8) : Nat :=
  if first < 0x80 then 1
  else if first < 0xC2 then 0
  else if first < 0xE0 then 2
  else if first < 0xF0 then 3
  else if first < 0xF5 then 4
  else 0

/-- The payload of a continuation byte. -/
def payload (b : UInt8) : Nat := b.toNat % 64

/-- Reads the character at the front of a list that begins with `first`. -/
def utf8Step (first : UInt8) (rest : List UInt8) : Utf8Step :=
  let (low, high) := secondBounds first
  match utf8Length first, rest with
  | 1, _ => .char (Char.ofNat first.toNat) 1
  | 2, b :: _ =>
    if low ≤ b && b ≤ high then .char (Char.ofNat (first.toNat % 32 * 64 + payload b)) 2
    else .malformed 1
  | 3, b :: more =>
    if low ≤ b && b ≤ high then
      match more with
      | c :: _ =>
        if isContinuation c then
          .char (Char.ofNat ((first.toNat % 16 * 64 + payload b) * 64 + payload c)) 3
        else .malformed 2
      | [] => .malformed 2
    else .malformed 1
  | 4, b :: more =>
    if low ≤ b && b ≤ high then
      match more with
      | c :: more =>
        if isContinuation c then
          match more with
          | d :: _ =>
            if isContinuation d then
              .char (Char.ofNat
                (((first.toNat % 8 * 64 + payload b) * 64 + payload c) * 64 + payload d)) 4
            else .malformed 3
          | [] => .malformed 3
        else .malformed 2
      | [] => .malformed 2
    else .malformed 1
  | _, _ => .malformed 1

/-- Reads bytes, `skip` of which belong to the step before. -/
def decodeFrom (onMalformed : Option Char) (skip : Nat) : List UInt8 → Option (List Char)
  | [] => some []
  | b :: rest =>
    match skip with
    | k + 1 => decodeFrom onMalformed k rest
    | 0 =>
      match utf8Step b rest with
      | .char c size => (decodeFrom onMalformed (size - 1) rest).map (c :: ·)
      | .malformed size =>
        match onMalformed with
        | some r => (decodeFrom onMalformed (size - 1) rest).map (r :: ·)
        | none => none

/-- The text that bytes encode, `none` when they are malformed. -/
def utf8Decode? (bs : List UInt8) : Option String :=
  (decodeFrom none 0 bs).map String.ofList

/-- The text that bytes encode, with replacement characters for malformed pieces. -/
def utf8DecodeReplacing (bs : List UInt8) : String :=
  String.ofList ((decodeFrom (some (Char.ofNat 0xFFFD)) 0 bs).getD [])

end BrowserFlow.Text
