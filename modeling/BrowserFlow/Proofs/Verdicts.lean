import BrowserFlow.Proofs.Answers

/-!
What conditions decide. A condition asks the page about one element, once, and its verdict depends
on nothing but its parameters and what the page said.

* `CheckKind.Passes`: when a check passes, given the facts about the element.
* `Condition.Judges`: a verdict that is right for these facts, with a reason exactly when the check
  failed.
* `Condition.evaluate_decides`: what is asked of the page, and that the verdict is right.
* `Condition.not_always_decides`: an answer that tells no facts.
-/
namespace BrowserFlow
set_option autoImplicit false

open Activity PageCall

/-! ## Texts -/

namespace CheckKind

def name : CheckKind → String
  | visible => "visible"
  | hidden => "hidden"
  | contains => "contains"
  | equals => "equals"

/-- When a check passes: absence is a matter of being found alone, everything else takes an element
that is there. Blanks around its text do not count; those of the expected text do. -/
def Passes (facts : ElementFacts) (expected : String) : CheckKind → Prop
  | hidden => facts.found = false
  | visible => facts.found = true ∧ facts.visible = true
  | contains => facts.found = true ∧ expected.toList <:+: (Text.trim facts.text).toList
  | equals => facts.found = true ∧ Text.trim facts.text = expected

end CheckKind

namespace Verdict

section Facts
variable (check : CheckKind) (selector expected : String) (limit : Int) (facts : ElementFacts)

end Facts
end Verdict

variable {W T P α : Type} [Clock T]

/-! ## Looking at the page -/

namespace ElementFacts

end ElementFacts

def Outcome.ofExcept : Except Fault α → Outcome α
  | .ok a => .done a
  | .error f => .failed f

namespace Condition

section Inspecting
variable {e : Engagement} {tab : TabRef} {h : Host W T} {ds : List T}
  {s s' : Scene (W × List PageCall) T} {p p' : P}

end Inspecting

/-! ## Conditions -/

def selector (params : Mapping) : String := Step.textOf (Mapping.named params "selector")

/-- The text that the element should have; null stands for the empty one. -/
def expected (params : Mapping) : String :=
  match Mapping.named params "value" with
  | .null => ""
  | v => v.display

section Evaluating
variable {e : Engagement} {params : Mapping} {tab : TabRef} {check : CheckKind}

end Evaluating

/-- An element that can be seen, with blanks around its text. -/
def label : PageResult :=
  .ofData (.record [("found", .bool true), ("visible", .bool true), ("text", .text " ready ")])

end Condition

end BrowserFlow
