import BrowserFlow.Decimal.Numeral

/-!
The options of the command that runs a flow file.
-/
namespace BrowserFlow.CommandLine
set_option autoImplicit false

/-- How much is logged: lines of a level and of those above it. -/
inductive LogLevel where
  | debug
  | info
  | warn
  | error
  deriving DecidableEq, Repr, Inhabited

namespace LogLevel

def rank : LogLevel → Nat
  | debug => 0
  | info => 1
  | warn => 2
  | error => 3

/-- The level that an argument names. -/
def ofName? (s : String) : Option LogLevel :=
  [("debug", debug), ("info", info), ("warn", warn), ("error", error)].lookup s

/-- The name of a level in a log. -/
def label : LogLevel → String
  | debug => "DEBUG"
  | info => "INFO"
  | warn => "WARNING"
  | error => "ERROR"

end LogLevel

/-- What an option is about. -/
inductive Switch where
  | help
  | setVariable
  | url
  | headless
  | dryRun
  | blockTimeout
  | loadTimeout
  | maxRetries
  | retryDelay
  | debug
  | quiet
  | verbose
  | logLevel
  deriving DecidableEq, Repr

namespace Switch

/-- Whether a value comes with the option. -/
def takesValue : Switch → Bool
  | setVariable | url | blockTimeout | loadTimeout | maxRetries | retryDelay | logLevel => true
  | help | headless | dryRun | debug | quiet | verbose => false

/-- The options that every command has. -/
def common : List (String × Switch) := [("-h", help), ("--help", help)]

/-- The options of a run. -/
def names : List (String × Switch) :=
  common ++ [("--var", setVariable), ("--url", url), ("--headless", headless),
    ("--dry-run", dryRun), ("--block-timeout", blockTimeout), ("--load-timeout", loadTimeout),
    ("--max-retries", maxRetries), ("--retry-delay", retryDelay), ("--debug", debug),
    ("--quiet", quiet), ("--verbose", verbose), ("--log-level", logLevel)]

end Switch

/-- What the options of a run say. -/
structure RunOptions where
  /-- The initial variables, as they were written. -/
  bindings : List String := []
  /-- The address of a tab to open before the first block. -/
  url : Option String := none
  headless : Bool := false
  dryRun : Bool := false
  blockTimeout : Option Float := none
  loadTimeout : Option Float := none
  maxRetries : Option Int := none
  retryDelay : Option Int := none
  debug : Bool := false
  quiet : Bool := false
  verbose : Bool := false
  logLevel : LogLevel := .info

namespace RunOptions

/-- The level from which lines are logged: what was asked for in words gives way to the flags. -/
def threshold (o : RunOptions) : LogLevel :=
  if o.debug then .debug
  else if o.quiet then .error
  else if o.verbose then .debug
  else o.logLevel

/-- Turns on an option without a value. -/
def turnOn (o : RunOptions) : Switch → RunOptions
  | .headless => { o with headless := true }
  | .dryRun => { o with dryRun := true }
  | .debug => { o with debug := true }
  | .quiet => { o with quiet := true }
  | .verbose => { o with verbose := true }
  | _ => o

/-- Gives an option its value; a value that the option cannot have gives none. -/
def give? (o : RunOptions) (s : Switch) (value : String) : Option RunOptions :=
  match s with
  | .setVariable => some { o with bindings := o.bindings ++ [value] }
  | .url => some { o with url := some value }
  | .blockTimeout =>
    (Decimal.readFloat? value.toList).map fun x => { o with blockTimeout := some x }
  | .loadTimeout => (Decimal.readFloat? value.toList).map fun x => { o with loadTimeout := some x }
  | .maxRetries => (Decimal.readInt? value.toList).map fun n => { o with maxRetries := some n }
  | .retryDelay => (Decimal.readInt? value.toList).map fun n => { o with retryDelay := some n }
  | .logLevel => (LogLevel.ofName? value).map fun l => { o with logLevel := l }
  | _ => none

end RunOptions

end BrowserFlow.CommandLine
