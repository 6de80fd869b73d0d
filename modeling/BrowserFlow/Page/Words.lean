import BrowserFlow.Text.Blank
import BrowserFlow.Text.Digit
import BrowserFlow.Value.Display

/-!
Picking words out of a text. Words are counted from one, and a selection is a word, a range of
words, or nothing.
-/
namespace BrowserFlow
set_option autoImplicit false

/-- Which words of a text are wanted. -/
inductive WordSelection where
  | whole
  | word (n : Nat)
  | range (first last : Nat)
  | nothing
  deriving DecidableEq, Repr

namespace WordSelection

/-- A character that may stand between the ends of a range. -/
def isRangeMark (c : Char) : Bool := Text.isBlank c || c == '-'

/-- Reads digits alone, or two runs of digits with blanks and dashes between. -/
def ofChars (cs : List Char) : WordSelection :=
  let first := cs.takeWhile Text.isDigit
  let rest := cs.dropWhile Text.isDigit
  let marks := rest.takeWhile isRangeMark
  let last := rest.dropWhile isRangeMark
  if first = [] then nothing
  else if rest = [] then word (Text.digitsValue first)
  else if marks ≠ [] ∧ last ≠ [] ∧ last.all Text.isDigit then
    range (Text.digitsValue first) (Text.digitsValue last)
  else nothing

/-- Reads a parameter; nothing and blank text ask for the whole text. -/
def ofValue : Value → WordSelection
  | .null => whole
  | v =>
    let cs := Text.trimChars v.display.toList
    if cs = [] then whole else ofChars cs

/-- The selected words of a list, joined by single spaces. -/
def pick (words : List String) : WordSelection → String
  | whole | nothing => ""
  | word 0 => ""
  | word (n + 1) => words[n]?.getD ""
  | range first last =>
    if 0 < first ∧ first ≤ last then
      String.intercalate " " ((words.take last).drop (first - 1))
    else ""

end WordSelection

/-- The selected words of a text; the whole text keeps its inner blanks. -/
def selectWords (text : String) (selection : Value) : String :=
  match WordSelection.ofValue selection with
  | .whole => Text.trim text
  | s => s.pick (Text.words (Text.trim text))

end BrowserFlow
