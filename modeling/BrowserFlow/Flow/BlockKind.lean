import BrowserFlow.Page.Action
import BrowserFlow.Value.Display

/-!
The vocabulary of blocks: what each kind is called, shown as, and done with.
-/
namespace BrowserFlow
set_option autoImplicit false

/-- What a block does. -/
inductive BlockKind where
  | navigate
  | newTab
  | activateTab
  | switchTab
  | closeTab
  | pinTab
  | muteTab
  | refresh
  | wait
  | setVariable
  | getTabInfo
  | screenshot
  | click
  | type
  | select
  | scroll
  | hover
  | keyboard
  | waitForElement
  | readText
  | readAttribute
  | readTable
  | condition
  | loop
  | forEach
  deriving DecidableEq, Repr, Inhabited

/-- The part of the palette that a kind belongs to. -/
inductive Category where
  | page
  | interaction
  | data
  | logic
  deriving DecidableEq, Repr

def Category.name : Category → String
  | page => "page"
  | interaction => "interaction"
  | data => "data"
  | logic => "logic"

namespace BlockKind

/-- The tag of a kind in a flow. -/
def tag : BlockKind → String
  | navigate => "navigate"
  | newTab => "new_tab"
  | activateTab => "activate_tab"
  | switchTab => "switch_tab"
  | closeTab => "close_tab"
  | pinTab => "pin_tab"
  | muteTab => "mute_tab"
  | refresh => "refresh"
  | wait => "wait"
  | setVariable => "set_variable"
  | getTabInfo => "get_tab_info"
  | screenshot => "screenshot"
  | click => "click"
  | type => "type"
  | select => "select"
  | scroll => "scroll"
  | hover => "hover"
  | keyboard => "keyboard"
  | waitForElement => "wait_for_element"
  | readText => "read_text"
  | readAttribute => "read_attribute"
  | readTable => "read_table"
  | condition => "condition"
  | loop => "loop"
  | forEach => "for_each"

/-- Every kind. -/
def all : List BlockKind :=
  [navigate, newTab, activateTab, switchTab, closeTab, pinTab, muteTab, refresh, wait,
    setVariable, getTabInfo, screenshot, click, type, select, scroll, hover, keyboard,
    waitForElement, readText, readAttribute, readTable, condition, loop, forEach]

/-- The kind of a tag, none for a tag outside the vocabulary. -/
def ofTag? (s : String) : Option BlockKind := all.find? fun k => k.tag == s

/-- The kind of a tag that may be any value; only texts are tags. -/
def ofValue? : Value → Option BlockKind
  | .text s => ofTag? s
  | _ => none

/-- Kinds that repeat the blocks after them. -/
def isRepeater : BlockKind → Bool
  | loop | forEach => true
  | _ => false

/-- Kinds that steer the run instead of doing a step. -/
def isControl : BlockKind → Bool
  | condition | loop | forEach => true
  | _ => false

/-- The page action that a kind asks for. -/
def action? : BlockKind → Option PageAction
  | click => some .click
  | type => some .type
  | select => some .select
  | scroll => some .scroll
  | hover => some .hover
  | keyboard => some .keyboard
  | waitForElement => some .waitForElement
  | readText => some .readText
  | readAttribute => some .readAttribute
  | readTable => some .readTable
  | _ => none

end BlockKind

/-- How a block is shown. -/
structure Display where
  icon : String
  label : String
  category : Category
  deriving DecidableEq, Repr

namespace Display

/-- The icon and the label. -/
def title (d : Display) : String := d.icon ++ " " ++ d.label

def ofKind : BlockKind → Display
  | .navigate => ⟨"🌐", "Navigate", .page⟩
  | .newTab => ⟨"📑", "New Tab", .page⟩
  | .activateTab => ⟨"🔝", "Activate Tab", .page⟩
  | .switchTab => ⟨"🔁", "Switch Tab", .page⟩
  | .closeTab => ⟨"❌", "Close Tab", .page⟩
  | .pinTab => ⟨"📌", "Pin Tab", .page⟩
  | .muteTab => ⟨"🔇", "Mute Tab", .page⟩
  | .refresh => ⟨"🔄", "Refresh", .page⟩
  | .wait => ⟨"⏳", "Wait", .page⟩
  | .waitForElement => ⟨"👁\ufe0f", "Wait For Element", .page⟩
  | .setVariable => ⟨"📝", "Set Variable", .data⟩
  | .getTabInfo => ⟨"ℹ\ufe0f", "Get Tab Info", .data⟩
  | .screenshot => ⟨"📸", "Screenshot", .data⟩
  | .readText => ⟨"📖", "Read Text", .data⟩
  | .readAttribute => ⟨"🔍", "Read Attribute", .data⟩
  | .readTable => ⟨"📊", "Read Table", .data⟩
  | .click => ⟨"🖱\ufe0f", "Click", .interaction⟩
  | .type => ⟨"⌨\ufe0f", "Type", .interaction⟩
  | .select => ⟨"📋", "Select", .interaction⟩
  | .scroll => ⟨"📜", "Scroll", .interaction⟩
  | .hover => ⟨"👆", "Hover", .interaction⟩
  | .keyboard => ⟨"⌨\ufe0f", "Send Key", .interaction⟩
  | .condition => ⟨"🔀", "Condition", .logic⟩
  | .loop => ⟨"🔁", "Loop", .logic⟩
  | .forEach => ⟨"🔄", "For Each", .logic⟩

/-- How a block with this tag is shown; an unknown tag is its own label. -/
def ofTag (tag : Value) : Display :=
  match BlockKind.ofValue? tag with
  | some k => ofKind k
  | none => ⟨"⚡", tag.display, .logic⟩

end Display

end BrowserFlow
