import BrowserFlow.Run.Status
import BrowserFlow.Step.Condition

/-!
The state of a run, and what a run does to it: report, write variables, run a block.
-/
namespace BrowserFlow
set_option autoImplicit false

/-- What a receiver of reports does with one of them. -/
structure Reaction where
  /-- It asks the engine to stop. -/
  stops : Bool := false
  /-- It fails, which is nobody's concern. -/
  fails : Bool := false
  deriving DecidableEq, Repr

/-- A receiver of reports. -/
abbrev Sink := RunStatus → Reaction

/-- A report with the place and the moment at which it was made. -/
structure Event (T : Type) where
  status : RunStatus
  /-- The block that the run was at. -/
  position : Option Nat
  time : T

/-- What stays the same during a run. -/
structure Assignment where
  flow : Flow
  engagement : Engagement
  sink : Option Sink := none

/-- What changes during a run. -/
structure Progress (T : Type) where
  store : Store := []
  /-- How many enabled blocks are still to be left out. -/
  skips : Nat := 0
  /-- How many enabled blocks were reached. -/
  reached : Nat := 0
  /-- The block that the run is at. -/
  position : Option Nat := none
  /-- The reports so far, in order. -/
  events : List (Event T) := []

/-- An activity of a run. -/
abbrev Run (W T α : Type) : Type := Activity W T (Progress T) α

namespace Run

variable {W T : Type} [Clock T]

/-- A report about a flow. -/
def statusOf (flow : Flow) (reached : Nat) (state : RunState) (message : String)
    (error icon : Option String) : RunStatus :=
  { state, flowId := flow.id, flowName := flow.name, total := flow.enabledCount,
    current := reached, message, error, blockIcon := icon }

/-- Makes a report. The receiver may ask for a stop; that it fails changes nothing. -/
def emit (a : Assignment) (state : RunState) (message : String) (error icon : Option String) :
    Run W T RunStatus := do
  let p ← Activity.get
  let now ← Activity.now
  let status := statusOf a.flow p.reached state message error icon
  Activity.modify fun p => { p with events := p.events ++ [⟨status, p.position, now⟩] }
  match a.sink with
  | some sink => if (sink status).stops then Activity.request .stop
  | none => pure ()
  pure status

/-- Reports that something is under way. -/
def announce (a : Assignment) (message : String) (icon : Option String) : Run W T Unit := do
  let _ ← emit a .running message none icon
  pure ()

/-- The variables. -/
def store : Run W T Store := do
  let p ← Activity.get
  pure p.store

/-- Gives a variable a value. -/
def setVariable (name : String) (value : Value) : Run W T Unit :=
  Activity.modify fun p => { p with store := p.store.set name value }

/-- Evaluates a condition block. When it fails, the run ends or blocks are left out. -/
def condition (a : Assignment) (b : Block) (tab : TabRef) : Run W T Unit := do
  let params := Template.interpolateAll (← store) b.params
  let verdict ← (Condition.evaluate a.engagement params tab).lift
  if verdict.passed then pure ()
  else
    match FailurePolicy.ofValue (Mapping.named params "on_fail") with
    | .stop => Activity.fail (.conditionFailed (some verdict.reason))
    | .skip n => Activity.modify fun p => { p with skips := n }

/-- Runs a step and carries out its write. -/
def step (a : Assignment) (b : Block) (tab : TabRef) : Run W T TabRef := do
  let result ← (Step.execute a.engagement (← store) b tab).lift
  Activity.modify fun p => { p with store := p.store.apply result.write }
  pure result.tab

/-- Runs one block that is not a repeater and gives the tab of the next one. -/
def block (a : Assignment) (b : Block) (tab : TabRef) : Run W T TabRef :=
  if b.kind? = some .condition then do
    condition a b tab
    pure tab
  else step a b tab

end Run

end BrowserFlow
