import BrowserFlow.Parameter

/-!
Settings of an engine. Flows and command lines give them as values of any kind, which are
converted to the kind of the setting.
-/
namespace BrowserFlow
set_option autoImplicit false

/-- Settings, with the values they have when nobody says otherwise. -/
structure Config where
  /-- The most time for one block, or for one repeater with all its passes. -/
  blockTimeoutSec : Float := 30.0
  /-- The most time that a tab may take to load. -/
  loadTimeoutSec : Float := 30.0
  /-- How long an element is waited for before it is acted on. -/
  elementTimeoutMs : Int := 10000
  elementPollMs : Int := 500
  /-- Attempts beyond the first after a page could not be reached. -/
  maxRetries : Int := 2
  retryDelayMs : Int := 500
  /-- The duration of a wait block without a usable one. -/
  defaultWaitMs : Int := 1000
  /-- The count of a loop block without a usable one. -/
  defaultLoopCount : Int := 3
  defaultChildSelector : String := "li"
  /-- How much text of a page is quoted in a reason. -/
  displayTextLimit : Int := 80
  deriving DecidableEq, Inhabited

/-- The kinds of settings. -/
inductive SettingKind where
  | seconds
  | integer
  | text
  deriving DecidableEq, Repr

namespace Config

/-- The characters of bytes that are all ASCII. -/
def asciiChars? (bs : List UInt8) : Option (List Char) :=
  if bs.all (· < 128) then some (bs.map fun b => Char.ofNat b.toNat) else none

/-- A quotation inside a message, cut when it is long. -/
def shortQuote (s : String) : String := String.ofList (s.toList.take 200)

/-- A value as an integer. -/
def toInt : Value → Except Fault Int
  | .bool b => .ok (if b then 1 else 0)
  | .int n => .ok n
  | .float x => Parameter.truncate x
  | .text s =>
    match Decimal.readInt? s.toList with
    | some n => .ok n
    | none => .error (.badInt (shortQuote (Text.quoted s)))
  | .bytes bs =>
    match (asciiChars? bs).bind Decimal.readInt? with
    | some n => .ok n
    | none => .error (.badInt (shortQuote (Text.quotedBytes bs)))
  | v => .error (.notAnInt v.fullKind)

/-- An integer as a double. -/
def intToFloat (n : Int) : Except Fault Float :=
  match Decimal.floatOfInt? n with
  | some x => .ok x
  | none => .error .intTooLarge

/-- A value as a double. -/
def toFloat : Value → Except Fault Float
  | .bool b => .ok (if b then 1.0 else 0.0)
  | .int n => intToFloat n
  | .float x => .ok x
  | .text s =>
    match Decimal.readFloat? s.toList with
    | some x => .ok x
    | none => .error (.badFloat (Text.quoted s))
  | .bytes bs =>
    match (asciiChars? bs).bind Decimal.readFloat? with
    | some x => .ok x
    | none => .error (.badFloat (Text.quotedBytes bs))
  | v => .error (.notAFloat v.fullKind)

/-- The settings and their kinds. -/
def settingKinds : List (String × SettingKind) :=
  [("block_timeout_sec", .seconds), ("load_timeout_sec", .seconds),
    ("element_timeout_ms", .integer), ("element_poll_ms", .integer), ("max_retries", .integer),
    ("retry_delay_ms", .integer), ("default_wait_ms", .integer),
    ("default_loop_count", .integer), ("default_child_selector", .text),
    ("display_text_limit", .integer)]

/-- Gives one setting a value. -/
def set (c : Config) (name : String) (v : Value) : Except Fault Config :=
  if name = "block_timeout_sec" then (toFloat v).map fun x => { c with blockTimeoutSec := x }
  else if name = "load_timeout_sec" then (toFloat v).map fun x => { c with loadTimeoutSec := x }
  else if name = "element_timeout_ms" then (toInt v).map fun n => { c with elementTimeoutMs := n }
  else if name = "element_poll_ms" then (toInt v).map fun n => { c with elementPollMs := n }
  else if name = "max_retries" then (toInt v).map fun n => { c with maxRetries := n }
  else if name = "retry_delay_ms" then (toInt v).map fun n => { c with retryDelayMs := n }
  else if name = "default_wait_ms" then (toInt v).map fun n => { c with defaultWaitMs := n }
  else if name = "default_loop_count" then (toInt v).map fun n => { c with defaultLoopCount := n }
  else if name = "default_child_selector" then
    .ok { c with defaultChildSelector := v.display }
  else if name = "display_text_limit" then (toInt v).map fun n => { c with displayTextLimit := n }
  else .error (.unknownSetting name)

/-- Takes one entry of a mapping of settings; null leaves a setting as it is. -/
def setEntry (c : Config) (key value : Value) : Except Fault Config :=
  match key with
  | .text name =>
    if (settingKinds.lookup name).isNone then .error (.unknownSetting name)
    else
      match value with
      | .null => .ok c
      | v => c.set name v
  | k => .error (.unknownSetting k.display)

/-- The settings of a mapping over the usual ones, in the order of the mapping. -/
def ofMapping (m : Mapping) : Except Fault Config :=
  m.foldlM (fun c e => c.setEntry e.1 e.2) {}

/-- Settings from a value that may be missing. -/
def ofValue (v : Value) : Except Fault Config :=
  if !v.isTruthy then .ok {}
  else
    match v with
    | .mapping m => ofMapping m
    | v => .error (.missingAttribute v.kind "items")

/-- Settings as a mapping. -/
def toMapping (c : Config) : Mapping :=
  [("block_timeout_sec", .float c.blockTimeoutSec), ("load_timeout_sec", .float c.loadTimeoutSec),
    ("element_timeout_ms", .int c.elementTimeoutMs), ("element_poll_ms", .int c.elementPollMs),
    ("max_retries", .int c.maxRetries), ("retry_delay_ms", .int c.retryDelayMs),
    ("default_wait_ms", .int c.defaultWaitMs), ("default_loop_count", .int c.defaultLoopCount),
    ("default_child_selector", .text c.defaultChildSelector),
    ("display_text_limit", .int c.displayTextLimit)].map fun e => (.text e.1, e.2)

/-- Replaces settings; null leaves a setting as it is. -/
def override (c : Config) (changes : List (String × Value)) : Except Fault Config :=
  ofMapping (changes.foldl
    (fun m e => if e.2 = .null then m else Mapping.insert m (.text e.1) e.2) c.toMapping)

end Config

end BrowserFlow
