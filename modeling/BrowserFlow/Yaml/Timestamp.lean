import BrowserFlow.Decimal.Numeral
import BrowserFlow.Value

/-!
Dates and times as YAML writes them, and the texts that stand for them among other values.
-/
namespace BrowserFlow.Yaml
set_option autoImplicit false

/-- A time of day. -/
structure TimeOfDay where
  hour : Nat
  minute : Nat
  second : Nat
  micro : Nat
  /-- How many minutes the clock is ahead of universal time, if that is said. -/
  offset : Option Int

/-- A date, which may have a time. -/
structure Timestamp where
  year : Nat
  month : Nat
  day : Nat
  time : Option TimeOfDay

namespace Timestamp

/-! ## Reading -/

/-- A number at the front of a text, in at least `low` and at most `high` digits. -/
def digits? (low high : Nat) (cs : List Char) : Option (Nat × List Char) :=
  let ds := (cs.take high).takeWhile Char.isDigit
  if ds.length < low then none else some (Text.digitsValue ds, cs.drop ds.length)

/-- A mark and a number after it. -/
def after? (mark : Char) (low high : Nat) : List Char → Option (Nat × List Char)
  | [] => none
  | c :: cs => if c = mark then digits? low high cs else none

def isGap (c : Char) : Bool := c == ' ' || c == '\t'

/-- What separates a date from a time: a letter or blanks. -/
def separator? : List Char → Option (List Char)
  | [] => none
  | c :: cs =>
    if c = 'T' ∨ c = 't' then some cs
    else if isGap c then some (cs.dropWhile isGap)
    else none

/-- The digits of a fraction of a second as microseconds; further digits are dropped. -/
def micros (ds : List Char) : Nat :=
  Text.digitsValue ((ds ++ List.replicate 6 '0').take 6)

/-- A fraction of a second, zero when there is none. -/
def fraction : List Char → Nat × List Char
  | '.' :: cs => (micros (cs.takeWhile Char.isDigit), cs.dropWhile Char.isDigit)
  | cs => (0, cs)

/-- The offset from universal time, which ends the text. -/
def offset? (cs : List Char) : Option (Option Int) :=
  if cs = [] then some none
  else
    match cs.dropWhile isGap with
    | ['Z'] => some (some 0)
    | sign :: cs =>
      if sign = '+' ∨ sign = '-' then do
        let (hours, rest) ← digits? 1 2 cs
        let (minutes, rest) ← if rest = [] then some (0, []) else after? ':' 2 2 rest
        let total : Int := hours * 60 + minutes
        if rest = [] then some (some (if sign = '-' then -total else total)) else none
      else none
    | [] => none

/-- The time of day that a text is. -/
def time? (cs : List Char) : Option TimeOfDay := do
  let (hour, cs) ← digits? 1 2 cs
  let (minute, cs) ← after? ':' 2 2 cs
  let (second, cs) ← after? ':' 2 2 cs
  let (micro, cs) := fraction cs
  let offset ← offset? cs
  some ⟨hour, minute, second, micro, offset⟩

/-- The date or time that a text is. -/
def read? (cs : List Char) : Option Timestamp := do
  let (year, cs) ← digits? 4 4 cs
  let (month, cs) ← after? '-' 1 2 cs
  let (day, cs) ← after? '-' 1 2 cs
  if cs = [] then some ⟨year, month, day, none⟩
  else
    let cs ← separator? cs
    let time ← time? cs
    some ⟨year, month, day, some time⟩

/-- Whether a text is a date or time without being marked as one: a date alone then has two
digits for its month and its day. -/
def isPlain (cs : List Char) : Bool :=
  match read? cs with
  | some t => t.time.isSome || cs.length == 10
  | none => false

/-! ## The calendar -/

def isLeap (year : Nat) : Bool := year % 4 == 0 && (year % 100 != 0 || year % 400 == 0)

def daysInMonth (year month : Nat) : Nat :=
  if month = 2 then if isLeap year then 29 else 28
  else if month ∈ [4, 6, 9, 11] then 30
  else 31

/-- Whether there is such a time of day; offsets are shorter than a day. -/
def isTime (t : TimeOfDay) : Bool :=
  decide (t.hour < 24) && decide (t.minute < 60) && decide (t.second < 60) &&
    decide ((t.offset.getD 0).natAbs < 24 * 60)

/-- Whether there is such a date and time. -/
def isReal (t : Timestamp) : Bool :=
  decide (0 < t.year) && decide (0 < t.month) && decide (t.month ≤ 12) && decide (0 < t.day) &&
    decide (t.day ≤ daysInMonth t.year t.month) &&
    (match t.time with
    | some time => isTime time
    | none => true)

/-! ## Texts -/

/-- A number with leading zeros. -/
def padded (width n : Nat) : String :=
  let ds := Nat.toDigits 10 n
  String.ofList (List.replicate (width - ds.length) '0' ++ ds)

/-- An offset as hours and minutes. -/
def offsetText (n : Int) : String :=
  (if n < 0 then "-" else "+") ++ padded 2 (n.natAbs / 60) ++ ":" ++ padded 2 (n.natAbs % 60)

/-- A timestamp on its own. -/
def display (t : Timestamp) : String :=
  let date := padded 4 t.year ++ "-" ++ padded 2 t.month ++ "-" ++ padded 2 t.day
  match t.time with
  | none => date
  | some c =>
    date ++ " " ++ padded 2 c.hour ++ ":" ++ padded 2 c.minute ++ ":" ++ padded 2 c.second ++
      (if c.micro = 0 then "" else "." ++ padded 6 c.micro) ++
      (match c.offset with
      | some n => offsetText n
      | none => "")

/-- An offset inside another value. -/
def quotedOffset (n : Int) : String :=
  let seconds := n * 60
  if n = 0 then "datetime.timezone.utc"
  else if 0 < n then
    "datetime.timezone(datetime.timedelta(seconds=" ++ toString seconds ++ "))"
  else
    "datetime.timezone(datetime.timedelta(days=-1, seconds=" ++ toString (86400 + seconds) ++ "))"

/-- A timestamp inside another value: its parts by number, without a last part that is zero. -/
def quoted (t : Timestamp) : String :=
  let parts (ns : List Nat) : String := String.intercalate ", " (ns.map toString)
  match t.time with
  | none => "datetime.date(" ++ parts [t.year, t.month, t.day] ++ ")"
  | some c =>
    let small : List Nat :=
      if c.micro ≠ 0 then [c.second, c.micro] else if c.second ≠ 0 then [c.second] else []
    "datetime.datetime(" ++ parts ([t.year, t.month, t.day, c.hour, c.minute] ++ small) ++
      (match c.offset with
      | some n => ", tzinfo=" ++ quotedOffset n
      | none => "") ++ ")"

/-- A timestamp as a value. -/
def toValue (t : Timestamp) : Value :=
  let kind := if t.time.isSome then "datetime" else "date"
  .exotic { kind, fullKind := "datetime." ++ kind, display := t.display, quoted := t.quoted }

end Timestamp

end BrowserFlow.Yaml
