import BrowserFlow.CommandLine.Arguments
import BrowserFlow.CommandLine.Place
import BrowserFlow.FlowFile.File
import BrowserFlow.Run.Engine

/-!
Running a flow file from the command line: what is printed, what is logged, and the exit code. A
dry run makes the same preparations and stops before the browser.
-/
namespace BrowserFlow.CommandLine
set_option autoImplicit false

/-- A line of the log. -/
structure LogLine where
  level : LogLevel
  text : String
  deriving DecidableEq, Repr

/-- A browser that was started, as it was left. -/
structure Opened (W : Type) where
  headless : Bool
  world : W

/-- What a command leaves behind. -/
structure Report (W : Type) where
  code : Nat
  printed : List String := []
  log : List LogLine := []
  opened : Option (Opened W) := none

/-! ## Preparations -/

/-- Takes in an initial variable: the name before the first equals sign, without blanks around
it, and the text after it. -/
def readVariable (s : Store) (item : String) : Except Fault Store :=
  match splitEquals item with
  | (name, some value) => .ok (s.set (Text.trim name) (.text value))
  | (_, none) => .error (.badVariable item)

/-- The initial variables that arguments give. A name that comes again keeps its place and takes
the new value; the first argument without an equals sign is a fault. -/
def readVariables (items : List String) : Except Fault Store := items.foldlM readVariable []

/-- The settings of a flow, which give way to those of the command line. -/
def buildConfig (o : RunOptions) (flow : Flow) : Except Fault Config := do
  let config ← Config.ofMapping flow.settings
  config.override
    [("block_timeout_sec", (o.blockTimeout.map Value.float).getD .null),
      ("load_timeout_sec", (o.loadTimeout.map Value.float).getD .null),
      ("max_retries", (o.maxRetries.map Value.int).getD .null),
      ("retry_delay_ms", (o.retryDelay.map Value.int).getD .null)]

/-- Why a command came to an early end. -/
inductive Trouble where
  | noSuchFile (path : String)
  /-- The flow file has problems. -/
  | invalid (problems : List Problem)
  | noBrowser (reason : String)
  | fault (f : Fault)

namespace Trouble

/-- What is logged about a trouble. -/
def lines : Trouble → List String
  | noSuchFile path => ["Flow file not found: " ++ path]
  | invalid problems => problems.map Fault.problemLine
  | noBrowser reason =>
    ["Browser support is not installed (" ++ reason ++ "); install flowmate[browser]"]
  | fault f =>
    [(if f.isA .value then "Validation error: " else "Unexpected error: ") ++ f.message]

/-- The exit code of a trouble: 2 when an input is not valid, otherwise 1. -/
def code : Trouble → Nat
  | invalid _ => 2
  | fault f => if f.isA .value then 2 else 1
  | _ => 1

/-- The report of a trouble, after the lines that were logged before. -/
def report {W : Type} (t : Trouble) (before : List LogLine) (opened : Option (Opened W)) :
    Report W :=
  { code := t.code, log := before ++ t.lines.map (⟨.error, ·⟩), opened }

end Trouble

/-- What a run needs. -/
structure Plan where
  flow : Flow
  config : Config
  store : Store

variable {W T : Type}

/-- Reads the flow file at a place. -/
def loadFlow (place : Place W T) (path : List String) : Except Trouble Flow :=
  let bytes := match place.find path with
    | .file bs => some bs
    | _ => none
  match FlowFile.read place.origin (path.getLast?.getD "") bytes with
  | .ok flow => .ok flow
  | .error (.invalidFlow problems) => .error (.invalid problems)
  | .error f => .error (.fault f)

/-- Makes all preparations of a run but the browser. -/
def plan (place : Place W T) (o : RunOptions) (path : List String) : Except Trouble Plan := do
  let flow ← loadFlow place path
  let config ← (buildConfig o flow).mapError Trouble.fault
  let store ← (readVariables o.bindings).mapError Trouble.fault
  pure ⟨flow, config, store⟩

/-! ## The run -/

variable [Clock T]

/-- Opens the tab that the run starts from, if one was asked for, and waits until it has loaded. -/
def openTab (url : Option String) (seconds : Float) : Errand W T TabRef :=
  match url with
  | none | some "" => pure none
  | some url => do
    let h ← Activity.call fun host : Host W T => host.create url true
    TabLoad.await (some h) seconds
    pure (some h)

/-- A report of progress as a line. -/
def statusLine (s : RunStatus) : String :=
  "[" ++ toString s.current ++ "/" ++ toString s.total ++ "] " ++ s.message

/-- The reports that are printed: all but errors. -/
def printedLines (statuses : List RunStatus) : List String :=
  (statuses.filter (·.state ≠ .error)).map statusLine

/-- The reports that are logged: errors. -/
def loggedLines (statuses : List RunStatus) : List LogLine :=
  (statuses.filter (·.state = .error)).map fun s => ⟨.error, statusLine s⟩

/-- The exit code of a run: 0 when the flow was completed. -/
def exitCode : Option RunStatus → Nat
  | some s => if s.state = .completed then 0 else 1
  | none => 1

/-- Runs a plan in a browser that was started. -/
def execute (place : Place W T) (o : RunOptions) (p : Plan) (before : List LogLine) (world : W) :
    Report W :=
  let opened (w : W) : Option (Opened W) := some ⟨o.headless, w⟩
  match openTab o.url p.config.loadTimeoutSec place.host [] ⟨world, Clock.zero, {}⟩ () with
  | (.done tab, s, _) =>
    let engine : Engine :=
      { engagement := { config := p.config, retry := RetryPolicy.ofConfig p.config } }
    let sink : Option Sink := if o.quiet then none else some fun _ => {}
    match engine.submit place.host p.flow tab sink p.store s.world s.now with
    | .error f => (Trouble.fault f).report before (opened s.world)
    | .ok r =>
      let statuses := if o.quiet then [] else r.events.map (·.status)
      { code := exitCode r.status
        printed := printedLines statuses
        log := before ++ loggedLines statuses
        opened := opened r.world }
  | (.failed f, s, _) => (Trouble.fault f).report before (opened s.world)
  | (_, s, _) => { code := 1, log := before, opened := opened s.world }

/-- Runs a flow file; the log is complete. -/
def runFile (place : Place W T) (flow : String) (o : RunOptions) : Report W :=
  let path := resolve place.directory flow
  if flow.toList.contains '\x00' then (Trouble.fault .impossiblePath).report [] none
  else
    match place.find path with
    | .nothing => (Trouble.noSuchFile (pathText path)).report [] none
    | _ =>
      let before : List LogLine := [⟨.info, "Loading flow: " ++ pathText path⟩]
      match plan place o path with
      | .error t => t.report before none
      | .ok p =>
        if o.dryRun then
          { code := 0
            log := before ++ [⟨.info, "[DRY RUN] Flow '" ++ p.flow.name ++ "' is valid (" ++
              toString p.flow.enabledCount ++ "/" ++ toString p.flow.blocks.length ++
              " block(s) enabled)"⟩] }
        else
          match place.browser with
          | .error reason => (Trouble.noBrowser reason).report before none
          | .ok start => execute place o p before (start o.headless)

/-- The report with the lines that pass a level. -/
def Report.filterLog (r : Report W) (threshold : LogLevel) : Report W :=
  { r with log := r.log.filter fun l => threshold.rank ≤ l.level.rank }

/-- Runs a flow file; the log holds what the options ask for. -/
def run (place : Place W T) (flow : String) (o : RunOptions) : Report W :=
  (runFile place flow o).filterLog o.threshold

end BrowserFlow.CommandLine
