import BrowserFlow.Yaml.Scalar

/-!
The tokens of a YAML text. Indentation opens and closes block collections, and a scalar turns out
to be a key only when the colon after it is reached: until then its place is remembered, and the
tokens for the key go in there.
-/
namespace BrowserFlow.Yaml
set_option autoImplicit false

/-- A place where a key may begin. -/
structure KeyPlace where
  /-- How many tokens there are before it. -/
  position : Nat
  /-- Whether nothing but a key can stand there. -/
  required : Bool
  index : Nat
  line : Nat
  column : Nat

/-- The state of the reading between two tokens. -/
structure Layout where
  cursor : Cursor
  /-- The tokens so far, last first. -/
  tokens : List Token := []
  /-- The columns of the open block collections, innermost first. -/
  columns : List Nat := []
  /-- Where a key may begin at the innermost level of brackets and braces. -/
  keyPlace : Option KeyPlace := none
  /-- The same for the levels around it. -/
  outerPlaces : List (Option KeyPlace) := []
  /-- Whether a key may begin here. -/
  keyAllowed : Bool := true

namespace Layout

/-- Whether the reading is inside brackets or braces. -/
def inFlow (s : Layout) : Bool := !s.outerPlaces.isEmpty

/-- The column of the innermost block collection, -1 outside all of them. -/
def indent (s : Layout) : Int :=
  match s.columns with
  | [] => -1
  | column :: _ => column

def push (t : Token) (s : Layout) : Layout := { s with tokens := t :: s.tokens }

/-- Puts a token before the tokens from a position on. -/
def pushAt (position : Nat) (t : Token) (s : Layout) : Layout :=
  { s with tokens := s.tokens.insertIdx (s.tokens.length - position) t }

/-! ## Places of keys -/

/-- A key takes at most one line and 1024 characters. -/
def isStale (c : Cursor) (k : KeyPlace) : Bool :=
  k.line != c.line || decide (k.index + 1024 < c.index)

/-- A place that is no longer one; a required key that did not come is a mistake. -/
def refresh? (c : Cursor) : Option KeyPlace → Option (Option KeyPlace)
  | none => some none
  | some k => if isStale c k then if k.required then none else some none else some (some k)

/-- Forgets the places that are no longer any. -/
def dropStale? (s : Layout) : Option Layout := do
  let keyPlace ← refresh? s.cursor s.keyPlace
  let outerPlaces ← s.outerPlaces.mapM (refresh? s.cursor)
  some { s with keyPlace, outerPlaces }

/-- Forgets the place of the innermost level. -/
def dropPlace? (s : Layout) : Option Layout :=
  match s.keyPlace with
  | some k => if k.required then none else some { s with keyPlace := none }
  | none => some s

/-- Remembers that a key may begin here. -/
def markPlace? (s : Layout) : Option Layout :=
  if s.keyAllowed then
    let place : KeyPlace :=
      { position := s.tokens.length
        required := !s.inFlow && decide (s.indent = s.cursor.column)
        index := s.cursor.index
        line := s.cursor.line
        column := s.cursor.column }
    (s.dropPlace?).map fun s => { s with keyPlace := some place }
  else some s

/-! ## Indentation -/

/-- Closes the block collections that are indented by more than a column. -/
def closeFrom (column : Int) : List Nat → List Token → List Nat × List Token
  | [], tokens => ([], tokens)
  | c :: columns, tokens =>
    if column < c then closeFrom column columns (.blockEnd :: tokens) else (c :: columns, tokens)

/-- Closes the block collections that end at a column; inside brackets none does. -/
def close (column : Int) (s : Layout) : Layout :=
  if s.inFlow then s
  else
    let (columns, tokens) := closeFrom column s.columns s.tokens
    { s with columns, tokens }

/-- Opens a block collection at a column, unless one is open there; its token goes to a
position. -/
def openAt (position column : Nat) (start : Token) (s : Layout) : Layout :=
  if !s.inFlow && decide (s.indent < column) then
    { s.pushAt position start with columns := column :: s.columns }
  else s

/-- Opens a block collection here. -/
def openHere (start : Token) (s : Layout) : Layout :=
  s.openAt s.tokens.length s.cursor.column start

/-! ## Tokens -/

/-- Past white space and comments; a line break lets keys begin again outside brackets. -/
def skipSpace : Nat → Layout → Layout
  | 0, s => s
  | fuel + 1, s =>
    let c := s.cursor.skipWhile (· == ' ')
    let c := if c.rest.head? == some '#' then c.skipWhile fun ch => !isBreak ch else c
    if (c.rest.head?.map isBreak).getD false then
      skipSpace fuel { s with cursor := c.next, keyAllowed := s.keyAllowed || !s.inFlow }
    else { s with cursor := c }

/-- To the next token. -/
def toToken (s : Layout) : Layout :=
  let c := s.cursor
  let c := if c.index == 0 && c.rest.head? == some byteOrderMark then c.next else c
  skipSpace (c.rest.length + 1) { s with cursor := c }

/-- A mark or a directive, before which all block collections end. -/
def documentToken? (t : Token) (after : Cursor) (s : Layout) : Option Layout := do
  let s ← (s.close (-1)).dropPlace?
  some { s.push t with cursor := after, keyAllowed := false }

/-- An opening bracket or brace, which may begin a key. -/
def openFlow? (t : Token) (s : Layout) : Option Layout := do
  let s ← s.markPlace?
  some { s.push t with
    cursor := s.cursor.next
    keyAllowed := true
    keyPlace := none
    outerPlaces := s.keyPlace :: s.outerPlaces }

/-- A closing bracket or brace; one without an opening is a mistake. -/
def closeFlow? (t : Token) (s : Layout) : Option Layout := do
  let s ← s.dropPlace?
  match s.outerPlaces with
  | [] => none
  | place :: outer =>
    some { s.push t with
      cursor := s.cursor.next
      keyAllowed := false
      keyPlace := place
      outerPlaces := outer }

/-- A comma between the parts of a collection in brackets or braces. -/
def flowEntry? (s : Layout) : Option Layout := do
  let s ← dropPlace? { s with keyAllowed := true }
  some { s.push .flowEntry with cursor := s.cursor.next }

/-- The dash of a block sequence. -/
def blockEntry? (s : Layout) : Option Layout := do
  if !s.inFlow && !s.keyAllowed then none
  let s ← dropPlace? { s.openHere .blockSequenceStart with keyAllowed := true }
  some { s.push .blockEntry with cursor := s.cursor.next }

/-- The question mark of a key that is not written on one line. -/
def key? (s : Layout) : Option Layout := do
  if !s.inFlow && !s.keyAllowed then none
  let s ← dropPlace? { s.openHere .blockMappingStart with keyAllowed := !s.inFlow }
  some { s.push .key with cursor := s.cursor.next }

/-- The colon of a value, which makes a key of what stands at the remembered place. -/
def value? (s : Layout) : Option Layout := do
  let s ← match s.keyPlace with
    | some k =>
      let s := { s.pushAt k.position .key with keyPlace := none }
      some { s.openAt k.position k.column .blockMappingStart with keyAllowed := false }
    | none =>
      if !s.inFlow && !s.keyAllowed then none
      else dropPlace? { s.openHere .blockMappingStart with keyAllowed := !s.inFlow }
  some { s.push .value with cursor := s.cursor.next }

/-- A token that may be a key or begin one. -/
def keyToken? (t : Token) (after : Cursor) (s : Layout) : Option Layout := do
  let s ← s.markPlace?
  some { s.push t with cursor := after, keyAllowed := false }

/-- A block scalar, after which a key may begin. -/
def blockScalarToken? (folds : Bool) (s : Layout) : Option Layout := do
  let s ← dropPlace? { s with keyAllowed := true }
  let (text, after) ← blockScalar? folds s.indent s.cursor
  some { s.push (.scalar (String.ofList text) false) with cursor := after }

/-- A plain scalar. -/
def plainToken? (s : Layout) : Option Layout := do
  let p := plainScalar s.inFlow (s.indent + 1) s.cursor
  let s ← s.keyToken? (.scalar (String.ofList p.text) true) p.after
  some { s with keyAllowed := p.endsLine }

/-- Characters that have a meaning of their own at the start of a token. -/
def isIndicator (c : Char) : Bool :=
  c ∈ ['-', '?', ':', ',', '[', ']', '\x7b', '\x7d', '#', '&', '*', '!', '|', '>', '\'', '"', '%',
    '@', '\x60']

/-- Whether a plain scalar can begin with a character before a text. -/
def startsPlain (inFlow : Bool) (c : Char) (rest : List Char) : Bool :=
  (!isSpace c && !isIndicator c) ||
    (!endsOr isSpace rest && (c == '-' || (!inFlow && (c == '?' || c == ':'))))

/-- Reads the token that begins with a character. -/
def read? (c : Char) (rest : List Char) (s : Layout) : Option Layout :=
  let spaced := endsOr isSpace rest
  if c = '%' ∧ s.cursor.column = 0 then
    (directive? rest).bind fun (t, after) => s.documentToken? t (s.cursor.moveTo after)
  else if c = '-' ∧ s.cursor.atMarker then s.documentToken? .documentStart (s.cursor.skip 3)
  else if c = '.' ∧ s.cursor.atMarker then s.documentToken? .documentEnd (s.cursor.skip 3)
  else if c = '[' then s.openFlow? .flowSequenceStart
  else if c = '\x7b' then s.openFlow? .flowMappingStart
  else if c = ']' then s.closeFlow? .flowSequenceEnd
  else if c = '\x7d' then s.closeFlow? .flowMappingEnd
  else if c = ',' then s.flowEntry?
  else if c = '-' ∧ spaced then s.blockEntry?
  else if c = '?' ∧ (s.inFlow || spaced) then s.key?
  else if c = ':' ∧ (s.inFlow || spaced) then s.value?
  else if c = '*' then
    (name? rest).bind fun (name, after) => s.keyToken? (.alias name) (s.cursor.moveTo after)
  else if c = '&' then
    (name? rest).bind fun (name, after) => s.keyToken? (.anchor name) (s.cursor.moveTo after)
  else if c = '!' then
    (tag? (c :: rest)).bind fun (t, after) => s.keyToken? t (s.cursor.moveTo after)
  else if c = '|' ∧ !s.inFlow then s.blockScalarToken? false
  else if c = '>' ∧ !s.inFlow then s.blockScalarToken? true
  else if c = '\'' ∨ c = '"' then
    (quotedScalar? (c == '"') s.cursor).bind fun (text, after) =>
      s.keyToken? (.scalar (String.ofList text) false) after
  else if startsPlain s.inFlow c rest then s.plainToken?
  else none

/-- Reads all tokens; each takes at least one character. -/
def tokensFrom? : Nat → Layout → Option (List Token)
  | 0, _ => none
  | fuel + 1, s =>
    match s.toToken.dropStale? with
    | none => none
    | some s =>
      let s := s.close s.cursor.column
      match s.cursor.rest with
      | [] => ((s.close (-1)).dropPlace?).map fun s => s.tokens.reverse
      | c :: rest =>
        match s.read? c rest with
        | some s => tokensFrom? fuel s
        | none => none

end Layout

/-- The tokens of a text, none when it is malformed. -/
def Token.ofText? (cs : List Char) : Option (List Token) :=
  Layout.tokensFrom? (cs.length + 1) { cursor := { rest := cs } }

end BrowserFlow.Yaml
