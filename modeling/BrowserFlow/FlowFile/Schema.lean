import BrowserFlow.Flow.Config
import BrowserFlow.Flow.Basic

/-!
The schema of flow files. Every problem of a file is reported, in the order in which its parts
stand in the file; a file without problems gives a flow.
-/
namespace BrowserFlow.FlowFile
set_option autoImplicit false

/-- The fields of a flow. -/
def flowFields : List String := ["id", "name", "created_at", "settings", "blocks"]

/-- The fields of a block. -/
def blockFields : List String := ["id", "type", "params", "enabled"]

/-- Whether a key is one of the given names. -/
def isOneOf (names : List String) : Value → Bool
  | .text s => names.contains s
  | _ => false

/-- The problems of keys outside a list of fields. -/
def unknownFields (fields : List String) (what path : String) (m : Mapping) : List Problem :=
  (m.filter fun e => !isOneOf fields e.1).map fun e =>
    ⟨"Unknown " ++ what ++ " '" ++ e.1.display ++ "'", path, 2⟩

/-- A text that is not empty. -/
def name? : Value → Option String
  | .text s => if s = "" then none else some s
  | _ => none

/-- The problems of settings. Numbers beyond every double are a fault of their own. -/
def settingsProblems : Value → Except Fault (List Problem)
  | .mapping m =>
    match Config.ofMapping m with
    | .ok _ => .ok []
    | .error f =>
      if f.kind = .value ∨ f.kind = .wrongType then .ok [⟨f.message, "settings", 2⟩]
      else .error f
  | _ => .ok [⟨"'settings' must be a dictionary", "settings", 2⟩]

/-- A value that a parameter may have. -/
def isScalar : Value → Bool
  | .null | .bool _ | .int _ | .float _ | .text _ => true
  | _ => false

/-- What a file says about one block, with what it leaves out filled in. -/
structure BlockEntry where
  id : String
  type : String
  params : Mapping
  enabled : Bool
  deriving DecidableEq, Inhabited

/-- An entry as a value. -/
def BlockEntry.toValue (b : BlockEntry) : Value :=
  .record [("id", .text b.id), ("type", .text b.type), ("params", .mapping b.params),
    ("enabled", .bool b.enabled)]

/-- Whether an entry repeats the blocks after it. -/
def BlockEntry.isRepeater (b : BlockEntry) : Bool :=
  match BlockKind.ofTag? b.type with
  | some k => k.isRepeater
  | none => false

/-- The path of the block at a position. -/
def blockPath (position : Nat) : String := "blocks[" ++ toString position ++ "]"

/-- The tag of a block, or a problem and the empty tag. -/
def entryType (path : String) (m : Mapping) : String × List Problem :=
  match name? (Mapping.named m "type") with
  | some tag => (tag, [])
  | none => ("", [⟨"Block missing required 'type' field", path, 2⟩])

/-- The identifier of a block, by default its position counted from one. -/
def entryId (position : Nat) (path : String) (m : Mapping) : String × List Problem :=
  match Mapping.named m "id" with
  | .null => ("block_" ++ toString (position + 1), [])
  | .text s => (s, [])
  | .int n => (toString n, [])
  | v => (v.display, [⟨"Block id must be a string, got " ++ v.kind, path, 2⟩])

/-- The parameters of a block. -/
def entryParams (path : String) (m : Mapping) : Mapping × List Problem :=
  match Mapping.named m "params" with
  | .null => ([], [])
  | .mapping params =>
    (params, (params.filter fun e => !isScalar e.2).map fun e =>
      ⟨"Parameter '" ++ e.1.display ++ "' must be a string, number or boolean",
        path ++ ".params", 2⟩)
  | _ => ([], [⟨"'params' must be a dictionary", path, 2⟩])

/-- Whether a block is enabled. -/
def entryEnabled (path : String) (m : Mapping) : Bool × List Problem :=
  match Mapping.named? m "enabled" with
  | none => (true, [])
  | some (.bool b) => (b, [])
  | some _ => (true, [⟨"'enabled' must be a boolean", path, 2⟩])

/-- One block of a file; `seen` holds the identifiers before it. -/
def entry (position : Nat) (seen : List String) (m : Mapping) : BlockEntry × List Problem :=
  let path := blockPath position
  let (type, typeProblems) := entryType path m
  let (id, idProblems) := entryId position path m
  let (params, paramProblems) := entryParams path m
  let (enabled, enabledProblems) := entryEnabled path m
  let repeated : List Problem :=
    if seen.contains id then [⟨"Duplicate block id '" ++ id ++ "'", path, 2⟩] else []
  (⟨id, type, params, enabled⟩,
    unknownFields blockFields "block field" path m ++ typeProblems ++ idProblems ++ repeated ++
      paramProblems ++ enabledProblems)

/-- The blocks of a file from a position on. What is not a mapping is a problem and no entry. -/
def entriesFrom (position : Nat) (seen : List String) :
    List Value → List BlockEntry × List Problem
  | [] => ([], [])
  | .mapping m :: rest =>
    let (b, problems) := entry position seen m
    let (bs, more) := entriesFrom (position + 1) (b.id :: seen) rest
    (b :: bs, problems ++ more)
  | _ :: rest =>
    let (bs, more) := entriesFrom (position + 1) seen rest
    (bs, ⟨"Block must be a dictionary", blockPath position, 2⟩ :: more)

/-- The problems of repeaters without a body, `position` being that of the first entry. -/
def bodyProblems (position : Nat) : List BlockEntry → List Problem
  | [] => []
  | [b] =>
    if b.isRepeater then
      [⟨"'" ++ b.type ++ "' has no blocks below it to repeat", blockPath position, 2⟩]
    else []
  | b :: next :: rest =>
    let own : List Problem :=
      if b.isRepeater && next.isRepeater then
        [⟨"'" ++ b.type ++ "' is directly followed by '" ++ next.type ++
          "'; nested repeaters are not supported", blockPath position, 2⟩]
      else []
    own ++ bodyProblems (position + 1) (next :: rest)

/-- The blocks of a file and their problems. -/
def blocks (v : Value) : List BlockEntry × List Problem :=
  if !v.isTruthy then ([], [⟨"'blocks' field is required and must not be empty", "", 2⟩])
  else
    match v with
    | .list vs =>
      let (bs, problems) := entriesFrom 0 [] vs
      (bs, problems ++ bodyProblems 0 bs)
    | _ => ([], [⟨"'blocks' must be a list", "", 2⟩])

/-- The problem of a missing or unusable name. -/
def nameProblems (v : Value) : List Problem :=
  match name? v with
  | some _ => []
  | none => [⟨"'name' field is required and must be a string", "", 2⟩]

/-- Checks a value against the schema and builds the flow. -/
def load (origin : Origin) : Value → Except Fault Flow
  | .mapping m => do
    let settings ← match Mapping.named? m "settings" with
      | some v => settingsProblems v
      | none => pure []
    let (entries, problems) := blocks (Mapping.named m "blocks")
    let problems := unknownFields flowFields "field" "" m ++
      nameProblems (Mapping.named m "name") ++ settings ++ problems
    if problems ≠ [] then throw (.invalidFlow problems)
    Flow.ofValue origin
      (.mapping (Mapping.insert m (.text "blocks") (.list (entries.map BlockEntry.toValue))))
  | _ => .error (.invalidFlow [⟨"Flow must be an object/dictionary", "", 2⟩])

end BrowserFlow.FlowFile
