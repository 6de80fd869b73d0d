/-!
A place in a YAML text, and the characters that matter for its layout. Line feeds, the next-line
control and the two separators of lines and paragraphs end a line; indentation is a column.
-/
namespace BrowserFlow.Yaml
set_option autoImplicit false

/-- What a line break stands for inside a scalar. -/
def breakText? (c : Char) : Option Char :=
  if c = '\n' ∨ c = '\u0085' then some '\n'
  else if c = '\u2028' ∨ c = '\u2029' then some c
  else none

def isBreak (c : Char) : Bool := (breakText? c).isSome

/-- A blank inside a line. -/
def isBlank (c : Char) : Bool := c == ' ' || c == '\t'

/-- White space, which ends indicators and words. -/
def isSpace (c : Char) : Bool := isBlank c || isBreak c

/-- The byte order mark, which takes no column. -/
def byteOrderMark : Char := '\ufeff'

/-- Whether a text begins with something that holds of its first character, or is at its end. -/
def endsOr (p : Char → Bool) : List Char → Bool
  | [] => true
  | c :: _ => p c

/-- Whether a line begins with the mark that starts or ends a document. -/
def startsMarker : List Char → Bool
  | '-' :: '-' :: '-' :: rest => endsOr isSpace rest
  | '.' :: '.' :: '.' :: rest => endsOr isSpace rest
  | _ => false

/-- A place in a text: what is left to read, and where that begins. -/
structure Cursor where
  rest : List Char
  index : Nat := 0
  line : Nat := 0
  column : Nat := 0

namespace Cursor

/-- One character on. -/
def next (c : Cursor) : Cursor :=
  match c.rest with
  | [] => c
  | ch :: rest =>
    if isBreak ch then ⟨rest, c.index + 1, c.line + 1, 0⟩
    else if ch = byteOrderMark then ⟨rest, c.index + 1, c.line, c.column⟩
    else ⟨rest, c.index + 1, c.line, c.column + 1⟩

/-- Some characters on. -/
def skip : Nat → Cursor → Cursor
  | 0, c => c
  | n + 1, c => skip n c.next

/-- On to where a remainder of the text begins. -/
def moveTo (c : Cursor) (rest : List Char) : Cursor := c.skip (c.rest.length - rest.length)

/-- Past the characters at the front that satisfy a condition. -/
def skipWhile (p : Char → Bool) (c : Cursor) : Cursor := c.skip (c.rest.takeWhile p).length

/-- Whether the cursor is at a mark that starts or ends a document. -/
def atMarker (c : Cursor) : Bool := c.column == 0 && startsMarker c.rest

end Cursor

end BrowserFlow.Yaml
