import BrowserFlow.Value

/-!
Status reports of a run.
-/
namespace BrowserFlow
set_option autoImplicit false

/-- How far a run is. -/
inductive RunState where
  | running
  | completed
  | error
  deriving DecidableEq, Repr, Inhabited

namespace RunState

def name : RunState → String
  | running => "running"
  | completed => "completed"
  | error => "error"

def all : List RunState := [running, completed, error]

def ofName? (s : String) : Option RunState := all.find? fun r => r.name == s

/-- Whether nothing follows. -/
def isTerminal : RunState → Bool
  | running => false
  | _ => true

end RunState

/-- One report. -/
structure RunStatus where
  state : RunState
  flowId : String
  flowName : String
  /-- How many blocks of the flow are enabled. -/
  total : Nat
  /-- How many of them were reached. -/
  current : Nat
  message : String
  error : Option String := none
  blockIcon : Option String := none
  deriving DecidableEq, Repr, Inhabited

namespace RunStatus

def isTerminal (s : RunStatus) : Bool := s.state.isTerminal

/-- The fields of a report; what is missing is left out. -/
def fields (s : RunStatus) : List (String × Value) :=
  [("state", .text s.state.name), ("flow_id", .text s.flowId), ("flow_name", .text s.flowName),
    ("total", .int s.total), ("current", .int s.current), ("message", .text s.message)] ++
  (s.error.map fun e => ("error", Value.text e)).toList ++
  (s.blockIcon.map fun i => ("block_icon", Value.text i)).toList

end RunStatus

end BrowserFlow
