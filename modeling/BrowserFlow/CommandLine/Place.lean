import BrowserFlow.Browser.Host
import BrowserFlow.Flow.Basic

/-!
The place where a command runs: a directory, the files around it, and a browser.
-/
namespace BrowserFlow.CommandLine
set_option autoImplicit false

/-- What there is at a path. -/
inductive Found where
  | nothing
  | directory
  | file (bytes : List UInt8)

/-- The surroundings of a command. -/
structure Place (W T : Type) where
  /-- The names on the way to the working directory, outermost first. -/
  directory : List String
  find : List String → Found
  /-- Starts a browser, with or without a window; or the reason why there is none. -/
  browser : Except String (Bool → W)
  host : Host W T
  origin : Origin

/-- The parts of a path, between its slashes. -/
def pathParts (part : List Char) : List Char → List String
  | [] => [String.ofList part]
  | c :: rest =>
    if c = '/' then String.ofList part :: pathParts [] rest else pathParts (part ++ [c]) rest

/-- Goes along the parts of a path from a place: a point stays there, two points go up. -/
def walk (place : List String) : List String → List String
  | [] => place
  | p :: rest =>
    if p = "" ∨ p = "." then walk place rest
    else if p = ".." then walk place.dropLast rest
    else walk (place ++ [p]) rest

/-- The place that a path leads to from a directory. -/
def resolve (directory : List String) (path : String) : List String :=
  let start := if path.toList.head? == some '/' then [] else directory
  walk start (pathParts [] path.toList)

/-- A place as text. -/
def pathText (place : List String) : String := "/" ++ String.intercalate "/" place

end BrowserFlow.CommandLine
