import BrowserFlow.Browser.Simulated
import BrowserFlow.Run.Engine

/-!
Rehearsals: runs over the simulated browser. Flows that are started together compete for the
engine; the first one has it, and the others are refused as soon as it pauses.
-/
namespace BrowserFlow
set_option autoImplicit false

/-- What a flow that was started together with others came to. -/
inductive Attempted where
  | ended (status : RunStatus)
  | refused (fault : Fault)
  | endless

/-- What flows that were started together leave behind. -/
structure Rehearsal where
  engine : Engine
  browser : SimBrowser
  now : Float
  attempts : List Attempted := []
  events : List (Event Float) := []

/-- Starts flows together. A flow that ends without a pause leaves the engine to the next one. -/
def Rehearsal.start (tab : TabRef) (sink : Option Sink) (initial : List (String × Value)) :
    List Flow → Rehearsal → Rehearsal
  | [], r => r
  | flow :: rest, r =>
    let browser := { r.browser with waiting := rest.map fun f => Request.run f.name }
    match r.engine.submit SimBrowser.host flow tab sink initial browser r.now with
    | .error f =>
      Rehearsal.start tab sink initial rest { r with attempts := r.attempts ++ [.refused f] }
    | .ok report =>
      let own := match report.status with
        | some s => Attempted.ended s
        | none => .endless
      let after : Rehearsal := {
        engine := report.engine
        browser := { report.world with waiting := [] }
        now := report.now
        attempts := r.attempts ++ own :: report.refusals.map Attempted.refused
        events := r.events ++ report.events }
      if report.refusals.isEmpty then Rehearsal.start tab sink initial rest after else after

end BrowserFlow
