import BrowserFlow.Browser.Simulated
import BrowserFlow.CommandLine.Run

/-!
The command line program. It reads the flow file, rehearses the flow in the simulated browser, and
writes what the run prints and logs.
-/
namespace BrowserFlow.CommandLine
set_option autoImplicit false

/-- The help text. -/
def usage : String :=
  "usage: browserflow run FLOW [--var KEY=VALUE] [--url URL] [--headless] [--dry-run]\n" ++
  "                       [--block-timeout SECONDS] [--load-timeout SECONDS]\n" ++
  "                       [--max-retries N] [--retry-delay MS]\n" ++
  "                       [--debug] [--quiet] [--verbose]\n" ++
  "                       [--log-level debug|info|warn|error]"

/-- What there is at a path. -/
def look (path : String) : IO Found := do
  let p := (← IO.currentDir) / path
  if ← p.isDir then return .directory
  else if ← p.pathExists then return .file (← IO.FS.readBinFile p).toList
  else return .nothing

/-- The place of a command for which only one path matters. -/
def placeFor (path : List String) (directory : List String) (found : Found) :
    Place SimBrowser Float :=
  { directory
    find := fun p => if p = path then found else .nothing
    browser := .ok fun _ => {}
    host := SimBrowser.host
    origin := ⟨"rehearsal", "block", ""⟩ }

/-- Runs a flow file and writes out the report. -/
def runAndPrint (flow : String) (o : RunOptions) : IO UInt32 := do
  let directory := resolve [] (toString (← IO.currentDir))
  let path := resolve directory flow
  let report := run (placeFor path directory (← look (pathText path))) flow o
  for l in report.log do
    IO.eprintln (l.level.label ++ ": " ++ l.text)
  for line in report.printed do
    IO.println line
  return report.code.toUInt32

/-- Runs the command that the arguments ask for. -/
def start (args : List String) : IO UInt32 := do
  match parse args with
  | .run flow o => runAndPrint flow o
  | .help => IO.println usage; return 0
  | .overview => IO.println usage; return 1
  | .misuse => IO.eprintln usage; return 2

end BrowserFlow.CommandLine

/-- The program. -/
def main (args : List String) : IO UInt32 :=
  BrowserFlow.CommandLine.start args
