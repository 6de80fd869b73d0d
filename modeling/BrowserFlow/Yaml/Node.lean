import BrowserFlow.Yaml.Tag
import BrowserFlow.Yaml.Token

/-!
The tree of a YAML document. Aliases are replaced by the nodes they name; a node that is named
inside itself stands there as a mark of what it is.
-/
namespace BrowserFlow.Yaml
set_option autoImplicit false

/-- A node of a document. -/
inductive Node where
  | scalar (tag : Tag) (text : String)
  | sequence (tag : Tag) (items : List Node)
  | mapping (tag : Tag) (entries : List (Node × Node))
  /-- A collection inside itself. -/
  | enclosing (isMapping : Bool)
  deriving Inhabited

namespace Node

/-- A value that is left out. -/
def empty : Node := .scalar .null ""

/-- The handles of tags and what they stand for. -/
abbrev Handles := List (String × String)

/-- What is left to read, and the nodes that have names. -/
structure Pending where
  tokens : List Token
  named : List (String × Node) := []

/-- A part of the reading of a tree, which fails on a malformed text. -/
abbrev Build := StateT Pending Option

/-- The next token. -/
def peek : Build (Option Token) := do return (← get).tokens.head?

/-- Past the next token. -/
def advance : Build Unit := modify fun p => { p with tokens := p.tokens.drop 1 }

/-- Whether the next token is one of some. -/
def sees (ts : List Token) : Build Bool := do return (← peek).any ts.contains

def malformed {α : Type} : Build α := fun _ => none

/-- Past the next token, which must be the one given. -/
def expect (t : Token) : Build Unit := do
  if (← peek) = some t then advance else malformed

/-- What stands before a node: a name and a tag. -/
structure Properties where
  anchor : Option String := none
  tag : Option String := none

/-- A tag in full. -/
def fullTag? (handles : Handles) (handle : Option String) (suffix : String) : Option String :=
  match handle with
  | none => some suffix
  | some h => (handles.lookup h).map (· ++ suffix)

/-- Reads a name and a tag, in either order. -/
def properties (handles : Handles) : Build Properties := do
  let tagged (anchor : Option String) (handle : Option String) (suffix : String) :
      Build Properties :=
    match fullTag? handles handle suffix with
    | some tag => pure { anchor, tag := some tag }
    | none => malformed
  match (← get).tokens with
  | .anchor a :: .tag h s :: _ => advance; advance; tagged (some a) h s
  | .tag h s :: .anchor a :: _ => advance; advance; tagged (some a) h s
  | .anchor a :: _ => advance; pure { anchor := some a }
  | .tag h s :: _ => advance; tagged none h s
  | _ => pure {}

/-- The kind that a tag gives a node; the tag `!` leaves it open. -/
def tagOr (tag : Option String) (default : Tag) : Tag :=
  match tag with
  | none | some "!" => default
  | some name => Tag.ofName name

/-- The kind of a scalar. -/
def scalarTag (tag : Option String) (text : String) (plain : Bool) : Tag :=
  match tag with
  | none => if plain then Tag.ofPlain text else .text
  | tag => tagOr tag (Tag.ofPlain text)

/-- Gives a node a name. -/
def giveName (anchor : Option String) (node : Node) : Build Unit :=
  match anchor with
  | some a => modify fun p => { p with named := (a, node) :: p.named }
  | none => pure ()

/-- Whether a name is taken. -/
def isTaken (anchor : Option String) : Build Bool := do
  let p ← get
  return anchor.any fun a => p.named.any fun e => e.1 == a

/-- A node of which there is nothing but a name or a tag. -/
def missing (p : Properties) : Build Node :=
  if p.anchor.isSome || p.tag.isSome then pure (.scalar (tagOr p.tag .null) "") else malformed

mutual
/-- Reads a node. Block collections may stand in `block` places only, and a sequence without
indentation of its own only as a key or a value. -/
def node (handles : Handles) (block indentless : Bool) : Nat → Build Node
  | 0 => malformed
  | fuel + 1 => do
    if let some (.alias name) ← peek then
      advance
      match (← get).named.lookup name with
      | some n => pure n
      | none => malformed
    else
      let p ← properties handles
      if ← isTaken p.anchor then malformed
      else
        let n ← content handles p block indentless fuel
        giveName p.anchor n
        pure n

/-- Reads a node after its name and its tag. -/
def content (handles : Handles) (p : Properties) (block indentless : Bool) : Nat → Build Node
  | 0 => malformed
  | fuel + 1 => do
    match ← peek with
    | some (.scalar text plain) =>
      advance
      pure (.scalar (scalarTag p.tag text plain) text)
    | some .flowSequenceStart =>
      advance
      giveName p.anchor (.enclosing false)
      return .sequence (tagOr p.tag .sequence) (← flowItems handles true [] fuel)
    | some .flowMappingStart =>
      advance
      giveName p.anchor (.enclosing true)
      return .mapping (tagOr p.tag .mapping) (← flowEntries handles true [] fuel)
    | some .blockSequenceStart =>
      if block then
        advance
        giveName p.anchor (.enclosing false)
        return .sequence (tagOr p.tag .sequence) (← blockItems handles [] fuel)
      else missing p
    | some .blockMappingStart =>
      if block then
        advance
        giveName p.anchor (.enclosing true)
        return .mapping (tagOr p.tag .mapping) (← blockEntries handles [] fuel)
      else missing p
    | some .blockEntry =>
      if indentless then
        giveName p.anchor (.enclosing false)
        return .sequence (tagOr p.tag .sequence) (← indentlessItems handles [] fuel)
      else missing p
    | _ => missing p

/-- Reads the items of a block sequence; `read` are those so far, last first. -/
def blockItems (handles : Handles) (read : List Node) : Nat → Build (List Node)
  | 0 => malformed
  | fuel + 1 => do
    if ← sees [.blockEntry] then
      advance
      let item ← optional handles true false [.blockEntry, .blockEnd] fuel
      blockItems handles (item :: read) fuel
    else
      expect .blockEnd
      pure read.reverse

/-- Reads the items of a sequence that is not indented. -/
def indentlessItems (handles : Handles) (read : List Node) : Nat → Build (List Node)
  | 0 => malformed
  | fuel + 1 => do
    if ← sees [.blockEntry] then
      advance
      let item ← optional handles true false [.blockEntry, .key, .value, .blockEnd] fuel
      indentlessItems handles (item :: read) fuel
    else pure read.reverse

/-- Reads the entries of a block mapping. -/
def blockEntries (handles : Handles) (read : List (Node × Node)) : Nat → Build (List (Node × Node))
  | 0 => malformed
  | fuel + 1 => do
    let ends : List Token := [.key, .value, .blockEnd]
    if ← sees [.key] then
      advance
      let key ← optional handles true true ends fuel
      let value ← valueAfter handles true true ends fuel
      blockEntries handles ((key, value) :: read) fuel
    else
      expect .blockEnd
      pure read.reverse

/-- Reads the items of a sequence in brackets. A key there begins a mapping of one entry. -/
def flowItems (handles : Handles) (first : Bool) (read : List Node) : Nat → Build (List Node)
  | 0 => malformed
  | fuel + 1 => do
    let ends : List Token := [.flowEntry, .flowSequenceEnd]
    if !(← sees [.flowSequenceEnd]) && !first then expect .flowEntry
    if ← sees [.flowSequenceEnd] then
      advance
      pure read.reverse
    else if ← sees [.key] then
      advance
      let key ← optional handles false false (.value :: ends) fuel
      let value ← valueAfter handles false false ends fuel
      flowItems handles false (.mapping .mapping [(key, value)] :: read) fuel
    else
      let item ← node handles false false fuel
      flowItems handles false (item :: read) fuel

/-- Reads the entries of a mapping in braces. A node that is no key has no value. -/
def flowEntries (handles : Handles) (first : Bool) (read : List (Node × Node)) :
    Nat → Build (List (Node × Node))
  | 0 => malformed
  | fuel + 1 => do
    let ends : List Token := [.flowEntry, .flowMappingEnd]
    if !(← sees [.flowMappingEnd]) && !first then expect .flowEntry
    if ← sees [.flowMappingEnd] then
      advance
      pure read.reverse
    else if ← sees [.key] then
      advance
      let key ← optional handles false false (.value :: ends) fuel
      let value ← valueAfter handles false false ends fuel
      flowEntries handles false ((key, value) :: read) fuel
    else
      let key ← node handles false false fuel
      flowEntries handles false ((key, empty) :: read) fuel

/-- Reads a node unless one of some tokens comes first. -/
def optional (handles : Handles) (block indentless : Bool) (ends : List Token) : Nat → Build Node
  | 0 => malformed
  | fuel + 1 => do
    if ← sees ends then pure empty else node handles block indentless fuel

/-- Reads the value of a key, which may be left out with its colon. -/
def valueAfter (handles : Handles) (block indentless : Bool) (ends : List Token) :
    Nat → Build Node
  | 0 => malformed
  | fuel + 1 => do
    if ← sees [.value] then
      advance
      optional handles block indentless ends fuel
    else pure empty
end

/-! ## Documents -/

/-- The handles that need no directive. -/
def standardHandles : Handles := [("!", "!"), ("!!", Tag.standard)]

/-- What the directives of a document say. -/
structure Preamble where
  versioned : Bool := false
  handles : Handles := []

/-- Reads the directives of a document. A second version or a second meaning of a handle is a
mistake, and so is a version that is not 1. -/
def preamble? (p : Preamble) : List Token → Option (Preamble × List Token)
  | .version major :: ts =>
    if p.versioned || major != 1 then none else preamble? { p with versioned := true } ts
  | .tagHandle h start :: ts =>
    if (p.handles.lookup h).isSome then none
    else preamble? { p with handles := (h, start) :: p.handles } ts
  | .otherDirective :: ts => preamble? p ts
  | ts => some (p, ts)

/-- Whether a token is a directive. -/
def isDirective : Token → Bool
  | .version _ | .tagHandle _ _ | .otherDirective => true
  | _ => false

/-- Whether a document has no content before a token. -/
def endsContent : List Token → Bool
  | [] => true
  | t :: _ => isDirective t || t == .documentStart || t == .documentEnd

/-- The root of a document, and what follows it; every step takes a token or goes one level into
a rule, and no more than six rules lie between two tokens. -/
def root? (handles : Handles) (ts : List Token) : Option (Node × List Token) :=
  ((node handles true false (8 * ts.length + 8)).run { tokens := ts }).map
    fun (n, p) => (n, p.tokens)

/-- The only document of a text, or none when the text is empty. -/
def ofTokens? (ts : List Token) : Option (Option Node) := do
  match ts with
  | [] => some none
  | t :: _ =>
    let (n, rest) ←
      if isDirective t || t == .documentStart then do
        let (p, ts) ← preamble? {} ts
        match ts with
        | .documentStart :: ts =>
          if endsContent ts then some (empty, ts)
          else root? (p.handles ++ standardHandles) ts
        | _ => none
      else root? standardHandles ts
    if rest.dropWhile (· == .documentEnd) = [] then some (some n) else none

end Node

end BrowserFlow.Yaml
