import BrowserFlow.Fault

/-!
What a page answers, and what it says about one element.
-/
namespace BrowserFlow
set_option autoImplicit false

/-- The answer to an action. -/
structure PageResult where
  /-- Whether the action ran. -/
  success : Bool := false
  data : Value := .null
  /-- What went wrong in the page, in its own words. -/
  error : Value := .null
  /-- For typing, whether the field changed. -/
  verified : Value := .null
  /-- Whether the action produced a value, be it null. -/
  hasData : Bool := false
  deriving DecidableEq, Inhabited

namespace PageResult

/-- An answer; data that is not null is data. -/
def of (success : Bool) (data error verified : Value) (hasData : Bool) : PageResult :=
  ⟨success, data, error, verified, hasData || data != .null⟩

/-- An answer with data. -/
def ofData (data : Value) : PageResult := of true data .null .null true

/-- An answer that tells of a problem in the page. -/
def ofProblem (text : String) : PageResult := of false .null (.text text) .null false

/-- An answer as a page writes it. -/
def ofMapping (raw : Mapping) : PageResult :=
  of (raw.named "success").isTruthy (raw.named "data") (raw.named "error")
    (raw.named "verified") (raw.named? "data").isSome

end PageResult

/-- What a page says about an element. -/
structure ElementFacts where
  found : Bool
  visible : Bool := false
  text : String := ""
  deriving DecidableEq, Repr, Inhabited

/-- Facts as a page writes them; no data means no element. -/
def ElementFacts.ofValue (data : Value) : Except Fault ElementFacts :=
  if !data.isTruthy then .ok ⟨false, false, ""⟩
  else
    match data with
    | .mapping m =>
      let text := Mapping.named m "text"
      .ok ⟨(Mapping.named m "found").isTruthy, (Mapping.named m "visible").isTruthy,
        if text.isTruthy then text.display else ""⟩
    | v => .error (.missingAttribute v.kind "get")

end BrowserFlow
