import BrowserFlow.Text.Digit
import BrowserFlow.Text.Utf8
import BrowserFlow.Yaml.Cursor

/-!
Tokens of YAML, and the reading of those that are names: anchors, tags and directives.
-/
namespace BrowserFlow.Yaml
set_option autoImplicit false

/-- The pieces of a YAML text. Block collections have tokens for their start and end, which come
from indentation. -/
inductive Token where
  /-- The version that a directive asks for, by its major number. -/
  | version (major : Nat)
  /-- A directive that lets a handle stand for the beginning of tags. -/
  | tagHandle (handle start : String)
  /-- Any other directive; it has no effect. -/
  | otherDirective
  | documentStart
  | documentEnd
  | blockSequenceStart
  | blockMappingStart
  | blockEnd
  | flowSequenceStart
  | flowSequenceEnd
  | flowMappingStart
  | flowMappingEnd
  | blockEntry
  | flowEntry
  | key
  | value
  | alias (name : String)
  | anchor (name : String)
  /-- A tag; without a handle it is written in full. -/
  | tag (handle : Option String) (suffix : String)
  | scalar (text : String) (plain : Bool)
  deriving DecidableEq, Repr

/-- A character of names. -/
def isNameChar (c : Char) : Bool := c.isAlphanum || c == '-' || c == '_'

/-- A character that may stand in a tag. -/
def isTagChar (c : Char) : Bool :=
  c.isAlphanum || "-;/?:@&=+$,_.!~*'()[]%".toList.contains c

/-- Whether a text is at its end, at a space or at a line break; a tab is none of them. -/
def atSpaceOrEnd (cs : List Char) : Bool := endsOr (fun c => c == ' ' || isBreak c) cs

/-- The name after the sign of an anchor or an alias, and what follows it. -/
def name? (cs : List Char) : Option (String × List Char) :=
  let name := cs.takeWhile isNameChar
  let rest := cs.dropWhile isNameChar
  if name ≠ [] ∧
    endsOr (fun c => isSpace c || c ∈ ['?', ':', ',', ']', '\x7d', '%', '@', '\x60']) rest
  then some (String.ofList name, rest)
  else none

/-! ## Tags -/

/-- The text of a tag whose percent signs introduce the bytes of characters; `bytes` are those
read just before. -/
def unescapeTag? (bytes : List UInt8) : List Char → Option (List Char)
  | '%' :: a :: b :: rest =>
    match Text.hexValue? a, Text.hexValue? b with
    | some m, some n => unescapeTag? (bytes ++ [(16 * m + n).toUInt8]) rest
    | _, _ => none
  | c :: rest =>
    if c = '%' then none
    else
      match Text.utf8Decode? bytes, unescapeTag? [] rest with
      | some s, some more => some (s.toList ++ c :: more)
      | _, _ => none
  | [] => (Text.utf8Decode? bytes).map String.toList

/-- The characters of a tag at the front of a text, and what follows them. -/
def tagText? (cs : List Char) : Option (String × List Char) :=
  let run := cs.takeWhile isTagChar
  if run = [] then none
  else (unescapeTag? [] run).map fun text => (String.ofList text, cs.dropWhile isTagChar)

/-- The handle at the front of a text: an exclamation mark, or a name between two of them. -/
def tagHandle? : List Char → Option (String × List Char)
  | '!' :: rest =>
    if rest.head? == some ' ' then some ("!", rest)
    else
      let name := rest.takeWhile isNameChar
      match rest.dropWhile isNameChar with
      | '!' :: after => some (String.ofList ('!' :: name ++ ['!']), after)
      | _ => none
  | _ => none

/-- The tag at the front of a text, and what follows it. -/
def tag? (cs : List Char) : Option (Token × List Char) := do
  let (token, rest) ← match cs with
    | '!' :: '<' :: rest =>
      match tagText? rest with
      | some (text, '>' :: after) => some (Token.tag none text, after)
      | _ => none
    | '!' :: rest =>
      if endsOr isSpace rest then some (Token.tag none "!", rest)
      else if (rest.takeWhile fun c => c ≠ ' ' && !isBreak c).contains '!' then do
        let (handle, rest) ← tagHandle? cs
        let (text, after) ← tagText? rest
        some (Token.tag (some handle) text, after)
      else do
        let (text, after) ← tagText? rest
        some (Token.tag (some "!") text, after)
    | _ => none
  if atSpaceOrEnd rest then some (token, rest) else none

/-! ## Directives -/

/-- A number in ASCII digits at the front of a text. -/
def number? (cs : List Char) : Option (Nat × List Char) :=
  let digits := cs.takeWhile Char.isDigit
  if digits = [] then none else some (Text.digitsValue digits, cs.dropWhile Char.isDigit)

/-- The version of a directive. -/
def version? (cs : List Char) : Option (Token × List Char) := do
  let (major, rest) ← number? (cs.dropWhile (· == ' '))
  match rest with
  | '.' :: rest =>
    let (_, rest) ← number? rest
    if atSpaceOrEnd rest then some (.version major, rest) else none
  | _ => none

/-- The handle of a directive and what it stands for. -/
def handleDirective? (cs : List Char) : Option (Token × List Char) := do
  let (handle, rest) ← tagHandle? (cs.dropWhile (· == ' '))
  if rest.head? ≠ some ' ' then none
  let (start, rest) ← tagText? (rest.dropWhile (· == ' '))
  if atSpaceOrEnd rest then some (.tagHandle handle start, rest) else none

/-- A line that may hold a comment and nothing else, its end included. -/
def restOfLine? (cs : List Char) : Option (List Char) :=
  let cs := cs.dropWhile (· == ' ')
  let cs := if cs.head? == some '#' then cs.dropWhile fun c => !isBreak c else cs
  match cs with
  | [] => some []
  | c :: rest => if isBreak c then some rest else none

/-- The directive after its percent sign, and what follows its line. -/
def directive? (cs : List Char) : Option (Token × List Char) := do
  let name := cs.takeWhile isNameChar
  let rest := cs.dropWhile isNameChar
  if name = [] ∨ !atSpaceOrEnd rest then none
  let (token, rest) ← match String.ofList name with
    | "YAML" => version? rest
    | "TAG" => handleDirective? rest
    | _ => some (.otherDirective, rest.dropWhile fun c => !isBreak c)
  let rest ← restOfLine? rest
  some (token, rest)

end BrowserFlow.Yaml
