import BrowserFlow.Dictionary
import BrowserFlow.Text.Blank
import BrowserFlow.Value.Json
import BrowserFlow.Value.Sequence

/-!
Tables read from a page: the cells of a row become a record under the texts of the headers.
-/
namespace BrowserFlow.Table
set_option autoImplicit false

/-- A row: cell texts under column names, in order. A name that is taken takes the text of the later
cell. -/
abbrev Record := Dictionary String

/-- The text of a cell or header; nothing has none. -/
def cellText : Value → String
  | .null => ""
  | v => Text.trim v.display

/-- The name of a column: its header, or its number counted from one. -/
def columnName (headers : List String) (position : Nat) : String :=
  match headers[position]? with
  | none | some "" => "col" ++ toString (position + 1)
  | some name => name

/-- The record of a row whose first cell stands at a position. -/
def rowFrom (headers : List String) (position : Nat) (record : Record) : List Value → Record
  | [] => record
  | cell :: cells =>
    rowFrom headers (position + 1)
      (record.put (columnName headers position) (cellText cell)) cells

/-- One record for every row. -/
def records (headers : List Value) (rows : List (List Value)) : List Record :=
  rows.map (rowFrom (headers.map cellText) 0 [])

/-- The records of a table whose headers and rows are values; headers may be left out. -/
def recordsOfValues (headers rows : Value) : Except Fault (List Record) := do
  let headers ← if headers.isTruthy then headers.items else pure []
  let rows ← rows.items
  let rows ← rows.mapM Value.items
  pure (records headers rows)

/-- Records as a value. -/
def toValue (records : List Record) : Value :=
  .list (records.map fun r => .record (r.map fun e => (e.1, .text e.2)))

mutual
/-- The kind of the first part of a value that JSON cannot express. -/
def unwritable? : Value → Option String
  | .bytes _ => some "bytes"
  | .exotic e => some e.kind
  | .list vs => unwritableItem? vs
  | .mapping es => unwritableField? es
  | _ => none

def unwritableItem? : List Value → Option String
  | [] => none
  | v :: vs => (unwritable? v).or (unwritableItem? vs)

def unwritableField? : List (Value × Value) → Option String
  | [] => none
  | (_, v) :: es => (unwritable? v).or (unwritableField? es)
end

/-- The text that is kept of a table. -/
def encode (rows : List Value) : Except Fault String :=
  match unwritableItem? rows with
  | some kind => .error (.notJson kind)
  | none => .ok (Json.write (.list rows))

/-- The text that is kept of records. -/
def encodeRecords (records : List Record) : String := Json.write (toValue records)

end BrowserFlow.Table
