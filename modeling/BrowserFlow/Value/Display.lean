import BrowserFlow.Decimal.Layout
import BrowserFlow.Text.Quoted
import BrowserFlow.Value

/-!
The text of a value: on its own, where a text stands for itself, and inside another value, where
a text is quoted.
-/
namespace BrowserFlow.Value
set_option autoImplicit false

/-- Items between brackets, separated by commas. -/
def enclosed (opening closing : String) (items : List String) : String :=
  opening ++ String.intercalate ", " items ++ closing

mutual
/-- A value as it shows inside another one. -/
def inner : Value → String
  | .null => "None"
  | .bool b => if b then "True" else "False"
  | .int n => toString n
  | .float x => Decimal.Layout.exact.text x
  | .text s => Text.quoted s
  | .bytes bs => Text.quotedBytes bs
  | .list items => enclosed "[" "]" (innerItems items)
  | .mapping entries => enclosed "\x7b" "\x7d" (innerEntries entries)
  | .exotic e => e.quoted

def innerItems : List Value → List String
  | [] => []
  | v :: vs => inner v :: innerItems vs

def innerEntries : List (Value × Value) → List String
  | [] => []
  | (k, v) :: es => (inner k ++ ": " ++ inner v) :: innerEntries es
end

/-- A value on its own. -/
def display : Value → String
  | .text s => s
  | .exotic e => e.display
  | v => v.inner

end BrowserFlow.Value
