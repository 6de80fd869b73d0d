import BrowserFlow.Yaml.Number
import BrowserFlow.Yaml.Timestamp

/-!
Kinds of YAML nodes: those that a tag names, and those that the form of an unmarked scalar shows.
The words `on` and `off` are texts, since they are choices that blocks offer.
-/
namespace BrowserFlow.Yaml
set_option autoImplicit false

/-- What a node is. -/
inductive Tag where
  | null
  | bool
  | int
  | float
  | bytes
  | timestamp
  | text
  | sequence
  | mapping
  | set
  | orderedMapping
  | pairs
  /-- The key that merges other mappings into its own. -/
  | merge
  /-- The equals sign, which as a key stands for itself. -/
  | equals
  /-- A tag without a meaning here. -/
  | unknown
  deriving DecidableEq, Repr

namespace Tag

/-- The beginning of the tags that have a meaning. -/
def standard : String := "tag:yaml.org,2002:"

/-- The kinds that tags name. -/
def names : List (String × Tag) := [
  ("null", null), ("bool", bool), ("int", int), ("float", float), ("binary", bytes),
  ("timestamp", timestamp), ("str", text), ("seq", sequence), ("map", mapping), ("set", set),
  ("omap", orderedMapping), ("pairs", pairs), ("merge", merge), ("value", equals)]

/-- The kind that a tag names. -/
def ofName (full : String) : Tag :=
  ((names.find? fun e => standard ++ e.1 == full).map (·.2)).getD unknown

/-- Words that are booleans. -/
def boolWords : List String := [
  "yes", "Yes", "YES", "no", "No", "NO", "true", "True", "TRUE", "false", "False", "FALSE"]

/-- Words that are nothing. -/
def nullWords : List String := ["~", "null", "Null", "NULL"]

/-- The kind of an unmarked scalar; a line feed at its end is not looked at. -/
def ofPlain (s : String) : Tag :=
  let cs := s.toList
  let body := if cs.getLast? == some '\n' then cs.dropLast else cs
  let word := String.ofList body
  if cs = [] then null
  else if boolWords.contains word then bool
  else if isPlainFloat body then float
  else if isPlainInt body then int
  else if word = "<<" then merge
  else if nullWords.contains word then null
  else if Timestamp.isPlain body then timestamp
  else if word = "=" then equals
  else if word = "!" ∨ word = "&" ∨ word = "*" then unknown
  else text

end Tag

end BrowserFlow.Yaml
