import BrowserFlow.Step.Execute

/-!
Conditions: one check of one element, and what happens to the run when it fails.
-/
namespace BrowserFlow
set_option autoImplicit false

/-- What a condition checks. -/
inductive CheckKind where
  | visible
  | hidden
  | contains
  | equals
  deriving DecidableEq, Repr

/-- The check of a name. -/
def CheckKind.ofName? (s : String) : Option CheckKind :=
  if s = "visible" then some visible
  else if s = "hidden" then some hidden
  else if s = "contains" then some contains
  else if s = "equals" then some equals
  else none

/-- The outcome of a check; a check that failed has a reason. -/
structure Verdict where
  passed : Bool
  reason : String := ""
  deriving DecidableEq, Repr, Inhabited

namespace Verdict

/-- Passed, or failed for a reason. -/
def of (passed : Bool) (reason : String) : Verdict := ⟨passed, if passed then "" else reason⟩

/-- The front of a text; a negative limit counts from the end. -/
def shown (limit : Int) (s : String) : String :=
  let cs := s.toList
  String.ofList (cs.take (if limit < 0 then cs.length - limit.natAbs else limit.toNat))

/-- The outcome of a check, given what the page says. -/
def ofFacts (check : CheckKind) (selector expected : String) (limit : Int)
    (facts : ElementFacts) : Verdict :=
  let text := Text.trim facts.text
  match check with
  | .hidden => of (!facts.found) "Element is still present"
  | .visible =>
    if facts.found then of facts.visible "Element is not visible"
    else of false ("Element not found: " ++ selector)
  | .contains =>
    if facts.found then
      of (Step.contains text.toList expected.toList)
        ("Text does not contain \"" ++ expected ++ "\"")
    else of false ("Element not found: " ++ selector)
  | .equals =>
    if facts.found then
      of (text == expected)
        ("Expected: \"" ++ expected ++ "\", Found: \"" ++ shown limit text ++ "\"")
    else of false ("Element not found: " ++ selector)

end Verdict

namespace Condition

variable {W T P : Type} [Clock T]

/-- What the page says about the element of a selector; the empty selector has none. -/
def inspect (e : Engagement) (tab : TabRef) (selector : String) :
    Activity W T P ElementFacts := do
  if selector = "" then pure ⟨false, false, ""⟩
  else do
    let r ← Dispatch.query e tab .inspect [(.text "selector", .text selector)]
    Activity.ofExcept (ElementFacts.ofValue r.data)

/-- Evaluates a condition with parameters whose references are replaced. -/
def evaluate (e : Engagement) (p : Mapping) (tab : TabRef) : Activity W T P Verdict := do
  if tab.isNone then Activity.fail .noTabForCondition
  else do
    let selector := Step.textOf (Mapping.named p "selector")
    let name := Text.lower (Text.trim (Step.textOf (Mapping.named p "check")))
    let expected := match Mapping.named p "value" with
      | .null => ""
      | v => v.display
    match CheckKind.ofName? name with
    | none => pure (Verdict.of false ("Unknown check type: " ++ name))
    | some check => do
      let facts ← inspect e tab selector
      pure (Verdict.ofFacts check selector expected e.config.displayTextLimit facts)

end Condition

/-- What a failed condition does to the run. -/
inductive FailurePolicy where
  | stop
  /-- Leaves out a number of enabled blocks. -/
  | skip (count : Nat)
  deriving DecidableEq, Repr

namespace FailurePolicy

/-- A character that may stand between the word and the number. -/
def isMark (c : Char) : Bool := Text.isBlank c || c == ':' || c == '_' || c == '-'

/-- Reads what follows the word `skip`: nothing for one block, or marks and a number. -/
def ofRest (cs : List Char) : FailurePolicy :=
  let digits := cs.dropWhile isMark
  if cs = [] then skip 1
  else if digits ≠ [] ∧ digits.all Text.isDigit then skip (Text.digitsValue digits)
  else stop

/-- Reads a policy in any case and with blanks around it; what is no skip is a stop. -/
def ofValue : Value → FailurePolicy
  | .null => stop
  | v =>
    match (Text.lower (Text.trim v.display)).toList with
    | 's' :: 'k' :: 'i' :: 'p' :: rest => ofRest rest
    | _ => stop

def stops : FailurePolicy → Bool
  | stop => true
  | skip _ => false

def skipCount? : FailurePolicy → Option Nat
  | stop => none
  | skip n => some n

end FailurePolicy

end BrowserFlow
