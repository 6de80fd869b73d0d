import BrowserFlow.Flow.BlockKind
import BrowserFlow.Value.Sequence

/-!
Flows and their blocks. The order of blocks is the order of execution, except that a repeater
takes the run of blocks after it.
-/
namespace BrowserFlow
set_option autoImplicit false

/-- One authored step of a flow. -/
structure Block where
  /-- The tag as it was written; tags outside the vocabulary are kept. -/
  type : Value
  /-- Parameters before their references are replaced. -/
  params : Mapping := []
  enabled : Bool := true
  id : String := ""
  deriving DecidableEq, Inhabited

/-- A named sequence of blocks. -/
structure Flow where
  name : String
  blocks : List Block := []
  id : String := ""
  createdAt : String := ""
  /-- Engine settings that the flow asks for. -/
  settings : Mapping := []
  deriving DecidableEq, Inhabited

/-- What stands in for the identifiers and the date that a flow leaves out. -/
structure Origin where
  flowId : String
  blockId : String
  createdAt : String

namespace Block

/-- The kind of a block, none when its tag is unknown. -/
def kind? (b : Block) : Option BlockKind := BlockKind.ofValue? b.type

/-- Whether a block repeats the blocks after it. -/
def isRepeater (b : Block) : Bool :=
  match b.kind? with
  | some k => k.isRepeater
  | none => false

/-- How a block is named in messages. -/
def label (b : Block) : String := (Display.ofTag b.type).title

/-- A block as a value. -/
def toValue (b : Block) : Value :=
  .record [("id", .text b.id), ("type", b.type), ("params", .mapping b.params),
    ("enabled", .bool b.enabled)]

/-- The block that a value describes; nothing but its tag is required. -/
def ofValue (origin : Origin) : Value → Except Fault Block
  | .mapping m => do
    let type ← match Mapping.named? m "type" with
      | some t => pure t
      | none => throw (.missingKey "type")
    let params ← (Mapping.named m "params").toMapping
    pure {
      type := type
      params := params
      enabled := Mapping.named? m "enabled" != some (.bool false)
      id := match Mapping.named m "id" with
        | .null => origin.blockId
        | v => v.display }
  | _ => .error .wrongType

end Block

namespace Flow

/-- How many blocks are enabled. -/
def enabledCount (f : Flow) : Nat := f.blocks.countP (·.enabled)

/-- A flow as a value; settings are left out when there are none. -/
def toValue (f : Flow) : Value :=
  .record ([("id", .text f.id), ("name", .text f.name), ("created_at", .text f.createdAt),
    ("blocks", .list (f.blocks.map Block.toValue))] ++
    if f.settings.isEmpty then [] else [("settings", .mapping f.settings)])

/-- A text from an entry that may be missing or null. -/
def textOr (v : Value) (default : String) : String :=
  match v with
  | .null => default
  | v => v.display

/-- The flow that a value describes, without checking that it can run. -/
def ofValue (origin : Origin) : Value → Except Fault Flow
  | .mapping m => do
    let parts ← ((Mapping.named? m "blocks").getD (.list [])).items
    let blocks ← parts.mapM (Block.ofValue origin)
    let settings ← (Mapping.named m "settings").toMapping
    pure {
      name := ((Mapping.named? m "name").getD (.text "")).display
      blocks := blocks
      id := textOr (Mapping.named m "id") origin.flowId
      createdAt := textOr (Mapping.named m "created_at") origin.createdAt
      settings := settings }
  | v => .error (.missingAttribute v.kind "get")

end Flow

end BrowserFlow
