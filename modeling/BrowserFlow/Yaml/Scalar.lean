import BrowserFlow.Yaml.Token

/-!
The text of scalars: plain words, quoted text and blocks of lines. Line breaks inside plain and
quoted scalars fold: one line feed becomes a space, and of several the first disappears.
-/
namespace BrowserFlow.Yaml
set_option autoImplicit false

/-- The text that a line break and the breaks of the empty lines after it leave. -/
def foldBreaks (first : Char) (more : List Char) : List Char :=
  if first ≠ '\n' then first :: more
  else if more = [] then [' ']
  else more

/-! ## Plain scalars -/

/-- Characters that end a plain scalar inside brackets or braces. -/
def isFlowEnd (c : Char) : Bool := c ∈ [',', '?', '[', ']', '\x7b', '\x7d']

/-- Characters that let a colon before them end a plain scalar inside brackets or braces. -/
def isFlowMark (c : Char) : Bool := c ∈ [',', '[', ']', '\x7b', '\x7d']

/-- The word of a plain scalar at the front of a text. -/
def plainWord (inFlow : Bool) : List Char → List Char
  | [] => []
  | c :: rest =>
    if isSpace c || (c == ':' && endsOr (fun d => isSpace d || (inFlow && isFlowMark d)) rest) ||
        (inFlow && isFlowEnd c) then []
    else c :: plainWord inFlow rest

/-- The breaks of empty lines after a line break, and how many characters they and the blanks
around them take. A document mark stops the reading and leaves no breaks. -/
def emptyLines (lineStart : Bool) : List Char → Option (List Char) × Nat
  | [] => (some [], 0)
  | c :: rest =>
    if lineStart && startsMarker (c :: rest) then (none, 0)
    else if c = ' ' then
      let (breaks, n) := emptyLines false rest
      (breaks, n + 1)
    else
      match breakText? c with
      | some b =>
        let (breaks, n) := emptyLines true rest
        (breaks.map (b :: ·), n + 1)
      | none => (some [], 0)

/-- What separates two words of a plain scalar: the text it leaves, how many characters it takes,
and whether it crosses into another line. -/
structure Gap where
  text : List Char
  size : Nat
  crosses : Bool

/-- The gap at the front of a text. -/
def gapAt (cs : List Char) : Gap :=
  let spaces := cs.takeWhile (· == ' ')
  let rest := cs.dropWhile (· == ' ')
  match rest with
  | c :: more =>
    match breakText? c with
    | some b =>
      let (breaks, n) := emptyLines true more
      ⟨(breaks.map (foldBreaks b)).getD [], spaces.length + 1 + n, true⟩
    | none => ⟨spaces, spaces.length, false⟩
  | [] => ⟨spaces, spaces.length, false⟩

/-- A plain scalar that has been read: its text, where it ends, and whether it ends at the start
of a line. -/
structure PlainScalar where
  text : List Char
  after : Cursor
  endsLine : Bool

/-- Reads the words of a plain scalar. `gap` is what came after the words read so far; a line that
is indented by less than `indent` ends a scalar outside brackets and braces. -/
def plainFrom (inFlow : Bool) (indent : Int) :
    Nat → List Char → Gap → Cursor → PlainScalar
  | 0, text, gap, c => ⟨text, c, gap.crosses⟩
  | fuel + 1, text, gap, c =>
    let word := plainWord inFlow c.rest
    if word = [] then ⟨text, c, gap.crosses⟩
    else
      let text := text ++ gap.text ++ word
      let c := c.skip word.length
      let gap := gapAt c.rest
      let c := c.skip gap.size
      if gap.text = [] || c.rest.head? == some '#' ||
        (!inFlow && decide ((c.column : Int) < indent))
      then ⟨text, c, gap.crosses⟩
      else plainFrom inFlow indent fuel text gap c

/-- The plain scalar at a cursor. -/
def plainScalar (inFlow : Bool) (indent : Int) (c : Cursor) : PlainScalar :=
  plainFrom inFlow indent c.rest.length [] ⟨[], 0, false⟩ c

/-! ## Quoted scalars -/

/-- The breaks of empty lines inside quotes, and what follows them; no document mark may stand at
the start of a line. -/
def quotedBreaks? (lineStart : Bool) : List Char → Option (List Char × List Char)
  | [] => some ([], [])
  | c :: rest =>
    if lineStart && startsMarker (c :: rest) then none
    else if isBlank c then quotedBreaks? false rest
    else
      match breakText? c with
      | some b => (quotedBreaks? true rest).map fun (breaks, after) => (b :: breaks, after)
      | none => some ([], c :: rest)

/-- The character of an escape that is one letter. -/
def letterEscape? (c : Char) : Option Char :=
  [('0', Char.ofNat 0), ('a', Char.ofNat 7), ('b', Char.ofNat 8), ('t', '\t'), ('\t', '\t'),
    ('n', '\n'), ('v', Char.ofNat 11), ('f', Char.ofNat 12), ('r', '\r'), ('e', Char.ofNat 27),
    (' ', ' '), ('"', '"'), ('\\', '\\'), ('/', '/'), ('N', '\u0085'), ('_', '\u00a0'),
    ('L', '\u2028'), ('P', '\u2029')].lookup c

/-- How many hexadecimal digits a numbered escape has. -/
def escapeWidth? (c : Char) : Option Nat := [('x', 2), ('u', 4), ('U', 8)].lookup c

/-- The number that hexadecimal digits at the front of a text denote. -/
def hexNumber? : Nat → Nat → List Char → Option (Nat × List Char)
  | 0, n, cs => some (n, cs)
  | width + 1, n, c :: cs =>
    match Text.hexValue? c with
    | some d => hexNumber? width (16 * n + d) cs
    | none => none
  | _ + 1, _, [] => none

/-- The character with a number; a surrogate has none of its own and is replaced. -/
def charOfNumber? (n : Nat) : Option Char :=
  if n < 0xD800 ∨ (0xE000 ≤ n ∧ n < 0x110000) then some (Char.ofNat n)
  else if n < 0xE000 then some (Char.ofNat 0xFFFD)
  else none

/-- The text of an escape after its backslash, and what follows it. -/
def escape? : List Char → Option (List Char × List Char)
  | [] => none
  | c :: rest =>
    match letterEscape? c with
    | some d => some ([d], rest)
    | none =>
      match escapeWidth? c with
      | some width =>
        match hexNumber? width 0 rest with
        | some (n, after) => (charOfNumber? n).map fun d => ([d], after)
        | none => none
      | none => if isBreak c then quotedBreaks? true rest else none

/-- White space inside quotes, as the text it leaves, and what follows it. -/
def quotedSpace? (cs : List Char) : Option (List Char × List Char) :=
  let blanks := cs.takeWhile isBlank
  match cs.dropWhile isBlank with
  | [] => none
  | c :: rest =>
    match breakText? c with
    | some b => (quotedBreaks? true rest).map fun (breaks, after) => (foldBreaks b breaks, after)
    | none => some (blanks, c :: rest)

/-- The text up to the closing quote, last character first, and what follows the quote. -/
def quotedFrom? (double : Bool) : Nat → List Char → List Char → Option (List Char × List Char)
  | fuel + 1, read, c :: rest =>
    if isSpace c then
      match quotedSpace? (c :: rest) with
      | some (text, after) => quotedFrom? double fuel (text.reverse ++ read) after
      | none => none
    else if double && c == '\\' then
      match escape? rest with
      | some (text, after) => quotedFrom? double fuel (text.reverse ++ read) after
      | none => none
    else if double && c == '"' then some (read, rest)
    else if !double && c == '\'' then
      match rest with
      | '\'' :: after => quotedFrom? double fuel ('\'' :: read) after
      | _ => some (read, rest)
    else quotedFrom? double fuel (c :: read) rest
  | _, _, _ => none

/-- The quoted scalar at a cursor, which stands at the opening quote. -/
def quotedScalar? (double : Bool) (c : Cursor) : Option (List Char × Cursor) :=
  let inside := c.next
  (quotedFrom? double (inside.rest.length + 1) [] inside.rest).map fun (text, after) =>
    (text.reverse, inside.moveTo after)

/-! ## Block scalars -/

/-- What becomes of the line breaks at the end of a block scalar. -/
inductive Chomping where
  | clip
  | strip
  | keep

/-- The sign that asks for a treatment of the last line breaks. -/
def chomping? : List Char → Option (Chomping × List Char)
  | '+' :: rest => some (.keep, rest)
  | '-' :: rest => some (.strip, rest)
  | _ => none

/-- The digit that gives the indentation of a block scalar; zero is none. -/
def increment? : List Char → Option (Option (Nat × List Char))
  | c :: rest =>
    if '0' ≤ c && c ≤ '9' then
      if c = '0' then none else some (some (c.toNat - 48, rest))
    else some none
  | [] => some none

/-- The signs of a block scalar, in either order, and what follows its first line. -/
def blockHeader? (cs : List Char) : Option (Chomping × Option Nat × List Char) := do
  let (chomping, increment, rest) ← match chomping? cs with
    | some (chomping, rest) =>
      match increment? rest with
      | none => none
      | some none => some (chomping, none, rest)
      | some (some (n, rest)) => some (chomping, some n, rest)
    | none =>
      match increment? cs with
      | none => none
      | some none => some (Chomping.clip, none, cs)
      | some (some (n, rest)) =>
        match chomping? rest with
        | some (chomping, rest) => some (chomping, some n, rest)
        | none => some (Chomping.clip, some n, rest)
  if endsOr (fun c => c == ' ' || isBreak c) rest then
    (restOfLine? rest).map fun rest => (chomping, increment, rest)
  else none

/-- The breaks of the lines before the first one with text, the widest indentation among them and
of that line, and how many characters they take. -/
def leadingLines (column widest : Nat) : List Char → List Char × Nat × Nat
  | [] => ([], widest, 0)
  | c :: rest =>
    if c = ' ' then
      let (breaks, widest, n) := leadingLines (column + 1) (max widest (column + 1)) rest
      (breaks, widest, n + 1)
    else
      match breakText? c with
      | some b =>
        let (breaks, widest, n) := leadingLines 0 widest rest
        (b :: breaks, widest, n + 1)
      | none => ([], widest, 0)

/-- The breaks of empty lines between lines of a block, and how many characters they and the
indentation take. -/
def blockBreaks (indent column : Nat) : List Char → List Char × Nat
  | [] => ([], 0)
  | c :: rest =>
    if c = ' ' && column < indent then
      let (breaks, n) := blockBreaks indent (column + 1) rest
      (breaks, n + 1)
    else
      match breakText? c with
      | some b =>
        let (breaks, n) := blockBreaks indent 0 rest
        (b :: breaks, n + 1)
      | none => ([], 0)

/-- The line break at the front of a text, as text. -/
def breakAt (cs : List Char) : List Char := ((cs.head?.bind breakText?).map ([·])).getD []

/-- Whether a text begins with a blank. -/
def startsBlank (cs : List Char) : Bool := (cs.head?.map isBlank).getD false

/-- The text of the lines of a block, the break after the last of them, the breaks of empty lines
after that, and where the block ends. -/
def blockLines (folds : Bool) (indent : Nat) :
    Nat → List Char → List Char → Cursor → List Char × List Char × List Char × Cursor
  | 0, text, breaks, c => (text, [], breaks, c)
  | fuel + 1, text, breaks, c =>
    if c.column ≠ indent ∨ c.rest = [] then (text, [], breaks, c)
    else
      let line := c.rest.takeWhile fun ch => !isBreak ch
      let end_ := c.skip line.length
      let lineBreak := breakAt end_.rest
      let start := end_.skip lineBreak.length
      let (more, n) := blockBreaks indent start.column start.rest
      let start := start.skip n
      let text := text ++ breaks ++ line
      if start.column ≠ indent ∨ start.rest = [] then (text, lineBreak, more, start)
      else
        let joint :=
          if folds && lineBreak == ['\n'] && !startsBlank c.rest && !startsBlank start.rest then
            if more = [] then [' '] else []
          else lineBreak
        blockLines folds indent fuel (text ++ joint) more start

/-- The block scalar at a cursor, which stands at its indicator; `outer` is the indentation of the
collection around it. -/
def blockScalar? (folds : Bool) (outer : Int) (c : Cursor) : Option (List Char × Cursor) := do
  let (chomping, increment, rest) ← blockHeader? c.next.rest
  let start := c.moveTo rest
  let least := max 1 (outer + 1).toNat
  let (indent, breaks, start) := match increment with
    | some n =>
      let indent := least + n - 1
      let (breaks, size) := blockBreaks indent start.column start.rest
      (indent, breaks, start.skip size)
    | none =>
      let (breaks, widest, size) := leadingLines start.column 0 start.rest
      (max least widest, breaks, start.skip size)
  let (text, lineBreak, more, after) :=
    blockLines folds indent (start.rest.length + 1) [] breaks start
  pure (match chomping with
    | .strip => text
    | .clip => text ++ lineBreak
    | .keep => text ++ lineBreak ++ more, after)

end BrowserFlow.Yaml
