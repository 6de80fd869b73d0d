import BrowserFlow.Page.Table
import BrowserFlow.Step.ElementWait
import BrowserFlow.Step.Retry
import BrowserFlow.Variables.Names

/-!
Actions inside a page: the element is waited for, the action is tried, and what it produced is
handed back with the variable that should hold it.
-/
namespace BrowserFlow
set_option autoImplicit false

/-- What steps need to know of their engine. -/
structure Engagement where
  config : Config := {}
  retry : RetryPolicy := RetryPolicy.ofConfig config

/-- What a step leaves behind: the tab of the next step, and at most one write. -/
structure StepResult where
  tab : TabRef
  write : Option (String × Value) := none
  deriving DecidableEq, Inhabited

namespace Dispatch

variable {W T P : Type} [Clock T]

/-- Asks a page once; no answer at all is a fault that may pass. -/
def ask (tab : TabRef) (action : PageAction) (params : Mapping) :
    Activity W T P PageResult := do
  match ← Activity.call fun h : Host W T => h.perform tab action params with
  | some r => pure r
  | none => Activity.fail (.noAnswer action.name)

/-- Asks a page, again if it could not be reached; a problem in the page is a fault. -/
def query (e : Engagement) (tab : TabRef) (action : PageAction) (params : Mapping) :
    Activity W T P PageResult := do
  let r ← e.retry.run (ask tab action params)
  if r.error.isTruthy then Activity.fail (.pageProblem r.error.display) else pure r

/-- Waits for the element that the parameters name, if they name one. -/
def awaitElement (e : Engagement) (tab : TabRef) (action : PageAction) (params : Mapping) :
    Activity W T P Unit := do
  let selector := Mapping.named params "selector"
  if selector.isTruthy then do
    let timeoutMs ←
      if action = .waitForElement then
        Activity.ofExcept
          (Parameter.int? (Mapping.named params "timeout") (some e.config.elementTimeoutMs))
      else pure (some e.config.elementTimeoutMs)
    let _ ← ElementWait.require tab selector.display
      (timeoutMs.getD e.config.elementTimeoutMs) e.config.elementPollMs
    pure ()
  else pure ()

/-- The value that is kept of an answer: a table is kept as text. -/
def kept (action : PageAction) (data : Value) : Except Fault Value :=
  match action, data with
  | .readTable, .list rows => (Table.encode rows).map .text
  | _, data => .ok data

/-- The write that an answer asks for. -/
def write? (action : PageAction) (params : Mapping) (r : PageResult) :
    Except Fault (Option (String × Value)) := do
  if r.hasData then
    let value ← kept action r.data
    let target := Mapping.named params "variable"
    pure (if target.isTruthy then Variables.write? target value else none)
  else pure none

/-- Performs an action in a tab. -/
def perform (e : Engagement) (tab : TabRef) (action : PageAction) (params : Mapping) :
    Activity W T P StepResult := do
  if tab.isNone then Activity.fail (.noTabForAction action.name)
  else do
    awaitElement e tab action params
    let r ← query e tab action params
    let write ← Activity.ofExcept (write? action params r)
    pure ⟨tab, write⟩

end Dispatch

end BrowserFlow
