/-!
Actions that a page can be asked for.
-/
namespace BrowserFlow
set_option autoImplicit false

/-- What is done inside a page; the last three are questions of the engine. -/
inductive PageAction where
  | click
  | type
  | select
  | hover
  | scroll
  | readText
  | readAttribute
  | readTable
  | waitForElement
  | keyboard
  | exists
  | inspect
  | count
  deriving DecidableEq, Repr, Inhabited

namespace PageAction

def name : PageAction → String
  | click => "click"
  | type => "type"
  | select => "select"
  | hover => "hover"
  | scroll => "scroll"
  | readText => "read_text"
  | readAttribute => "read_attribute"
  | readTable => "read_table"
  | waitForElement => "wait_for_element"
  | keyboard => "keyboard"
  | «exists» => "exists"
  | inspect => "inspect"
  | count => "count"

/-- Every action. -/
def all : List PageAction :=
  [click, type, select, hover, scroll, readText, readAttribute, readTable, waitForElement,
    keyboard, «exists», inspect, count]

def ofName? (s : String) : Option PageAction := all.find? fun a => a.name == s

/-- Whether the action works on an element that cannot be seen. -/
def ignoresVisibility : PageAction → Bool
  | readAttribute | waitForElement | «exists» | inspect | count => true
  | _ => false

/-- The names of the actions that ignore visibility, in alphabetical order. -/
def invisibleNames : List String :=
  ["count", "exists", "inspect", "read_attribute", "wait_for_element"]

end PageAction

end BrowserFlow
