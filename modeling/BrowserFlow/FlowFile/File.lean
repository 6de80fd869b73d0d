import BrowserFlow.FlowFile.Schema
import BrowserFlow.Text.Utf8
import BrowserFlow.Value.JsonReader
import BrowserFlow.Yaml.Document

/-!
Flow files: the name of a file tells its format, and its bytes are UTF-8 text. Whatever keeps a
file from being read as a value is one and the same problem.
-/
namespace BrowserFlow.FlowFile
set_option autoImplicit false

/-- The fault of a file that cannot be read. -/
def unreadable : Fault := .invalidFlow [⟨"Failed to load flow", "", 2⟩]

/-- The end of a file name from its last point on, empty when the point comes first or last. -/
def suffix (name : String) : String :=
  let back := name.toList.reverse
  let ending := back.takeWhile (· ≠ '.')
  match back.dropWhile (· ≠ '.') with
  | '.' :: _ :: _ => if ending = [] then "" else String.ofList ('.' :: ending.reverse)
  | _ => ""

/-- Whether a file of this name holds JSON; all others hold YAML. -/
def isJson (name : String) : Bool := Text.lower (suffix name) == ".json"

/-- The text with every line break as one line feed. -/
def unifyBreaks : List Char → List Char
  | '\r' :: '\n' :: rest => '\n' :: unifyBreaks rest
  | c :: rest => (if c = '\r' then '\n' else c) :: unifyBreaks rest
  | [] => []

/-- The value that the bytes of a file stand for. -/
def parse (name : String) (bytes : List UInt8) : Except Fault Value :=
  match Text.utf8Decode? bytes with
  | none => .error unreadable
  | some s =>
    let text := String.ofList (unifyBreaks s.toList)
    if isJson name then
      match Json.read? text with
      | some v => .ok v
      | none => .error unreadable
    else
      match Yaml.read text with
      | .ok v => .ok v
      | .error .malformed => .error unreadable
      | .error (.broken f) => .error (if f.isA .value then unreadable else f)

/-- The flow in a file; there are no bytes when there is no such file. -/
def read (origin : Origin) (name : String) (bytes : Option (List UInt8)) : Except Fault Flow :=
  match bytes with
  | none => .error unreadable
  | some bs => (parse name bs).bind (load origin)

end BrowserFlow.FlowFile
