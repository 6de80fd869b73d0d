import BrowserFlow.Browser.Tab
import BrowserFlow.Decimal.Layout
import BrowserFlow.Value.Display
import BrowserFlow.Value.Equality

/-!
What can go wrong, by cause. Every fault has a kind, kinds form a hierarchy, and the wording of
all faults is in one place.
-/
namespace BrowserFlow
set_option autoImplicit false

/-- Kinds of faults. -/
inductive FaultKind where
  | any
  | general
  | invalidState
  | alreadyRunning
  | tabNotFound
  | parameter
  | element
  | emptyCollection
  | transient
  | stepTimeout
  | blockTimeout
  | loadTimeout
  | elementTimeout
  | unknownType
  | emptyBody
  | conditionFailed
  | invalidFlow
  | runtime
  | value
  | overflow
  | asyncTimeout
  | wrongType
  | missingAttribute
  | missingKey
  | missingIndex
  | missingModule
  deriving DecidableEq, Repr

namespace FaultKind

/-- The kind that a kind is a special case of. -/
def parent? : FaultKind → Option FaultKind
  | any => none
  | invalidState | parameter | element | transient | stepTimeout | unknownType | emptyBody
  | conditionFailed => some general
  | alreadyRunning | tabNotFound => some invalidState
  | emptyCollection => some element
  | blockTimeout | loadTimeout | elementTimeout => some stepTimeout
  | general | invalidFlow | runtime | value | overflow | asyncTimeout | wrongType
  | missingAttribute | missingKey | missingIndex | missingModule => some any

/-- A kind and the kinds above it, nearest first; no kind is more than three steps below `any`. -/
def lineage (k : FaultKind) : List FaultKind :=
  let rec up : Nat → FaultKind → List FaultKind
    | 0, k => [k]
    | n + 1, k => match k.parent? with
      | some p => k :: up n p
      | none => [k]
  up 3 k

/-- Whether a kind is another one or a special case of it. -/
def isA (k other : FaultKind) : Bool := k.lineage.contains other

end FaultKind

/-- A problem found in a flow file. -/
structure Problem where
  message : String
  /-- The part of the file that the problem is about; empty for the whole file. -/
  path : String := ""
  exitCode : Nat := 2
  deriving DecidableEq, Repr

/-- The reason why something could not be done. -/
inductive Fault where
  /-- A run was asked for while another one is under way. -/
  | alreadyRunning (flow : Option String)
  | tabNotOpen (tab : Option Handle)
  | browserNotStarted
  | noTabForAction (action : String)
  | noActiveTab
  | noTabForCondition
  | noTabForItems
  /-- A block that steers the run was given to the executor of single steps. -/
  | notAStep (type : String)
  | tabNotFound (query : String)
  | noUrl
  /-- The page reported a problem in its own words. -/
  | pageProblem (text : String)
  | uncountable (parent child : String)
  | noItems (parent child : String)
  /-- The page gave no answer at all. -/
  | noAnswer (action : String)
  | scriptBroken (tab : Handle) (reason : String)
  | blockTimedOut (seconds : Float) (label : String)
  | loadTimedOut (seconds : Float) (tab : Option Handle)
  | elementTimedOut (millis : Int) (seconds : Float) (selector : String)
  | unknownType (type : Value)
  | emptyBody (label : String)
  | conditionFailed (reason : Option String)
  | invalidFlow (problems : List Problem)
  | nanToInt
  | infinityToInt
  | intTooLarge
  | badInt (quoted : String)
  | badFloat (quoted : String)
  | notAnInt (kind : String)
  | notAFloat (kind : String)
  | unknownSetting (key : String)
  | unknownState (quoted : String)
  | badVariable (item : String)
  /-- A path with the character zero, which no file name can hold. -/
  | impossiblePath
  /-- An item of a list of pairs that has some other length. -/
  | notAPair (position length : Nat)
  | missingKey (key : String)
  | missingIndex
  | missingAttribute (kind member : String)
  | notIterable (kind : String)
  | notJson (kind : String)
  | wrongType
  /-- What a host or a page reports with a kind and a text of its own. -/
  | reported (kind : FaultKind) (text : String) (seconds : Value)
  deriving DecidableEq

namespace Fault

/-- A problem as one line. -/
def problemLine (p : Problem) : String :=
  if p.path = "" then "Validation error: " ++ p.message
  else "Validation error at " ++ p.path ++ ": " ++ p.message

def kind : Fault → FaultKind
  | alreadyRunning _ => .alreadyRunning
  | tabNotOpen _ | browserNotStarted | noTabForAction _ | noActiveTab | noTabForCondition
  | noTabForItems | notAStep _ => .invalidState
  | tabNotFound _ => .tabNotFound
  | noUrl => .parameter
  | pageProblem _ | uncountable _ _ => .element
  | noItems _ _ => .emptyCollection
  | noAnswer _ | scriptBroken _ _ => .transient
  | blockTimedOut _ _ => .blockTimeout
  | loadTimedOut _ _ => .loadTimeout
  | elementTimedOut _ _ _ => .elementTimeout
  | unknownType _ => .unknownType
  | emptyBody _ => .emptyBody
  | conditionFailed _ => .conditionFailed
  | invalidFlow _ => .invalidFlow
  | nanToInt | badInt _ | badFloat _ | unknownSetting _ | unknownState _ | badVariable _
  | impossiblePath | notAPair _ _ => .value
  | infinityToInt | intTooLarge => .overflow
  | notAnInt _ | notAFloat _ | notIterable _ | notJson _ | wrongType => .wrongType
  | missingKey _ => .missingKey
  | missingIndex => .missingIndex
  | missingAttribute _ _ => .missingAttribute
  | reported k _ _ => k

/-- The wording of a fault. -/
def message : Fault → String
  | alreadyRunning none | alreadyRunning (some "") => "A flow is already running"
  | alreadyRunning (some flow) => "A flow is already running: " ++ flow
  | tabNotOpen tab => "Tab " ++ Handle.displayOption tab ++ " is not open"
  | browserNotStarted => "Browser is not started"
  | noTabForAction action => "Invalid tab handle (action: " ++ action ++ ")"
  | noActiveTab => "No active tab"
  | noTabForCondition => "Condition check requires an active tab"
  | noTabForItems => "For each requires an active tab"
  | notAStep type => "Control block '" ++ type ++ "' cannot be dispatched as a single step"
  | tabNotFound query => "Tab not found: \"" ++ query ++ "\""
  | noUrl => "No URL specified"
  | pageProblem text => text
  | uncountable parent child => "Could not count list items: " ++ parent ++ " > " ++ child
  | noItems parent child => "No elements in list: " ++ parent ++ " > " ++ child
  | noAnswer action => "Command could not be executed (script error): " ++ action
  | scriptBroken tab reason => "Script could not run in tab " ++ tab.display ++ ": " ++ reason
  | blockTimedOut seconds label =>
    "Block timed out (" ++ Decimal.Layout.brief.text seconds ++ "s): " ++ label
  | loadTimedOut seconds tab =>
    "Page did not finish loading within " ++ Decimal.Layout.brief.text seconds ++ "s (tab " ++
      Handle.displayOption tab ++ ")"
  | elementTimedOut millis _ selector =>
    "Element timed out (" ++ toString millis ++ "ms): " ++ selector
  | unknownType type => "Block type '" ++ type.display ++ "' is not implemented"
  | emptyBody label => label ++ " has no blocks below it to repeat"
  | conditionFailed none | conditionFailed (some "") => "Condition not met"
  | conditionFailed (some reason) => "Condition not met: " ++ reason
  | invalidFlow problems => String.intercalate "\n" (problems.map problemLine)
  | nanToInt => "cannot convert float NaN to integer"
  | infinityToInt => "cannot convert float infinity to integer"
  | intTooLarge => "int too large to convert to float"
  | badInt quoted => "invalid literal for int() with base 10: " ++ quoted
  | badFloat quoted => "could not convert string to float: " ++ quoted
  | notAnInt kind =>
    "int() argument must be a string, a bytes-like object or a real number, not '" ++ kind ++ "'"
  | notAFloat kind => "float() argument must be a string or a real number, not '" ++ kind ++ "'"
  | unknownSetting key => "Unknown engine setting '" ++ key ++ "'"
  | unknownState quoted => quoted ++ " is not a valid RunState"
  | badVariable item => "Invalid variable format: " ++ item ++ ". Expected KEY=VALUE"
  | impossiblePath => "embedded null byte"
  | notAPair position length =>
    "dictionary update sequence element #" ++ toString position ++ " has length " ++
      toString length ++ "; 2 is required"
  | missingKey key => Text.quoted key
  | missingIndex => "list index out of range"
  | missingAttribute kind member =>
    "'" ++ kind ++ "' object has no attribute '" ++ member ++ "'"
  | notIterable kind => "'" ++ kind ++ "' object is not iterable"
  | notJson kind => "Object of type " ++ kind ++ " is not JSON serializable"
  | wrongType => "value of the wrong type"
  | reported _ text _ => text

/-- Whether a fault is of a kind, or of a special case of it. -/
def isA (f : Fault) (k : FaultKind) : Bool := f.kind.isA k

/-- The budget that was exceeded, where the fault tells. -/
def seconds : Fault → Value
  | blockTimedOut s _ | loadTimedOut s _ | elementTimedOut _ s _ => .float s
  | reported _ _ s => s
  | _ => .null

/-- The fault of a given kind with a given text, as a host may report it. -/
def report (kind : FaultKind) (text : String) : Fault :=
  match kind with
  | .alreadyRunning => alreadyRunning (some text)
  | .unknownType => unknownType (.text text)
  | .conditionFailed => conditionFailed (some text)
  | k => reported k text .null

end Fault

end BrowserFlow
