import BrowserFlow.Run.Repeater

/-!
Engines: an engine runs one flow at a time, block after block, reports what it does, and keeps the
variables and the last report of its latest run.
-/
namespace BrowserFlow
set_option autoImplicit false

namespace Run

variable {W T : Type} [Clock T]

/-- The position after a block that is left out; a repeater takes its body with it. -/
def afterSkipped (blocks : List Block) (index : Nat) (b : Block) : Nat :=
  if b.isRepeater then (BodyRange.after blocks index).stop else index + 1

/-- Runs one top-level unit, within the time for a block, and gives the next position. -/
def unit (a : Assignment) (index : Nat) (b : Block) (tab : TabRef) : Run W T (Nat × TabRef) := do
  let seconds := a.engagement.config.blockTimeoutSec
  let late : Fault := .blockTimedOut seconds b.label
  match b.kind? with
  | some .loop => do
    let r ← Activity.within seconds late (Repeater.loop a index tab)
    pure ((r.lastIndex + 1).toNat, r.tab)
  | some .forEach => do
    let r ← Activity.within seconds late (Repeater.forEach a index tab)
    pure ((r.lastIndex + 1).toNat, r.tab)
  | _ => do
    let tab ← Activity.within seconds late (block a b tab)
    pure (index + 1, tab)

/-- Runs the units from a position on; `fuel` bounds the positions that are left. -/
def scanFrom (a : Assignment) : Nat → Nat → TabRef → Run W T TabRef
  | 0, _, tab => pure tab
  | fuel + 1, index, tab => do
    match a.flow.blocks[index]? with
    | none => pure tab
    | some b =>
      if ← Activity.stopped then pure tab
      else if !b.enabled then scanFrom a fuel (index + 1) tab
      else do
        Activity.modify fun p => { p with position := some index, reached := p.reached + 1 }
        let p ← Activity.get
        if 0 < p.skips then do
          Activity.modify fun p => { p with skips := p.skips - 1 }
          scanFrom a fuel (afterSkipped a.flow.blocks index b) tab
        else do
          let shown := Display.ofTag b.type
          announce a (shown.title ++ " running...") (some shown.icon)
          let (next, tab) ← unit a index b tab
          scanFrom a fuel next tab

/-- Runs all units of the flow. -/
def scan (a : Assignment) (tab : TabRef) : Run W T TabRef :=
  scanFrom a a.flow.blocks.length 0 tab

/-- Runs the flow from its first report to its last. -/
def flow (a : Assignment) (tab : TabRef) : Run W T RunStatus := do
  announce a ("Starting \"" ++ a.flow.name ++ "\"...") none
  match ← (scan a tab).attempt with
  | .ok _ => do
    Activity.modify fun p => { p with reached := a.flow.enabledCount }
    emit a .completed ("✅ \"" ++ a.flow.name ++ "\" completed") none none
  | .error f => emit a .error ("❌ Error: " ++ f.message) (some f.message) none

end Run

/-- The run that an engine is busy with. -/
structure ActiveRun where
  flow : String
  position : Option Nat
  stopped : Bool
  deriving DecidableEq, Repr

/-- An engine. Between runs it is idle. -/
structure Engine where
  engagement : Engagement
  active : Option ActiveRun := none
  store : Store := []
  lastStatus : Option RunStatus := none

/-- What a run leaves behind. -/
structure RunReport (W T : Type) where
  engine : Engine
  /-- How the run ended; none for a run that never does. -/
  status : Option RunStatus
  events : List (Event T)
  world : W
  now : T
  /-- The answers to the runs that were asked for meanwhile. -/
  refusals : List Fault

namespace Engine

variable {W T : Type} [Clock T]

/-- Asks the run under way to stop; an idle engine has nothing to stop. -/
def stop (e : Engine) : Engine :=
  { e with active := e.active.map fun r => { r with stopped := true } }

/-- Runs a flow that the engine has taken up, from a tab and with initial variables, to its end. -/
def run (e : Engine) (host : Host W T) (flow : Flow) (tab : TabRef) (sink : Option Sink)
    (initial : List (String × Value)) (world : W) (now : T) : RunReport W T :=
  let assignment : Assignment := ⟨flow, e.engagement, sink⟩
  let scene : Scene W T := ⟨world, now, { active := some flow.name }⟩
  let progress : Progress T := { store := Store.ofAssignments initial }
  let (outcome, scene, progress) := Run.flow assignment tab host [] scene progress
  let status := match outcome with
    | .done s => some s
    | _ => none
  { engine := { e with
      active := none
      store := progress.store
      lastStatus := status.or e.lastStatus }
    status := status
    events := progress.events
    world := scene.world
    now := scene.now
    refusals := scene.control.refusals }

/-- Asks for the run of a flow. A busy engine refuses it and stays as it is, and an idle one takes
the flow up. -/
def submit (e : Engine) (host : Host W T) (flow : Flow) (tab : TabRef) (sink : Option Sink)
    (initial : List (String × Value)) (world : W) (now : T) : Except Fault (RunReport W T) :=
  match e.active with
  | some r => .error (.alreadyRunning (some r.flow))
  | none => .ok (e.run host flow tab sink initial world now)

theorem submit_of_active {e : Engine} {r : ActiveRun} (he : e.active = some r) (host : Host W T)
    (flow : Flow) (tab : TabRef) (sink : Option Sink) (initial : List (String × Value)) (world : W)
    (now : T) :
    e.submit host flow tab sink initial world now = .error (.alreadyRunning (some r.flow)) := by
  rw [submit, he]

theorem submit_of_idle {e : Engine} (he : e.active = none) (host : Host W T) (flow : Flow)
    (tab : TabRef) (sink : Option Sink) (initial : List (String × Value)) (world : W) (now : T) :
    e.submit host flow tab sink initial world now =
      .ok (e.run host flow tab sink initial world now) := by
  rw [submit, he]

end Engine

end BrowserFlow
