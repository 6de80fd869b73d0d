import BrowserFlow.Value.Display
import BrowserFlow.Variables.Store

/-!
How a parameter names the variable to write to: with or without a leading star.
-/
namespace BrowserFlow.Variables
set_option autoImplicit false

/-- The number of the current pass of a loop. -/
def iterationName : String := "_iteration"

/-- The number of the current item. -/
def indexName : String := "_index"

/-- The selector of the current item. -/
def itemSelectorName : String := "_itemSelector"

/-- The latest picture of a tab. -/
def screenshotName : String := "_screenshot"

/-- Names that the engine writes itself, in alphabetical order. -/
def reservedNames : List String := [indexName, itemSelectorName, iterationName, screenshotName]

/-- The name that a target parameter stands for; empty when it names nothing. -/
def targetName (v : Value) : String :=
  match v with
  | .null => ""
  | v =>
    match v.display.toList with
    | '*' :: name => String.ofList name
    | name => String.ofList name

/-- The write that a target parameter asks for; a parameter that names nothing asks for none. -/
def write? (target value : Value) : Option (String × Value) :=
  if targetName target = "" then none else some (targetName target, value)

end BrowserFlow.Variables

namespace BrowserFlow.Store
set_option autoImplicit false

/-- Carries out a write, if there is one. -/
def apply (s : Store) : Option (String × Value) → Store
  | some (name, value) => s.set name value
  | none => s

/-- The store after a target parameter was given a value. -/
def assign (s : Store) (target value : Value) : Store := s.apply (Variables.write? target value)

/-- The store that a list of targets and values builds up. -/
def ofAssignments (pairs : List (String × Value)) : Store :=
  pairs.foldl (fun s p => assign s (.text p.1) p.2) []

end BrowserFlow.Store
