import BrowserFlow.Flow.Basic
import BrowserFlow.Step.Dispatch
import BrowserFlow.Variables.Template

/-!
Single steps: every kind of block that does not steer the run.
-/
namespace BrowserFlow.Step
set_option autoImplicit false

variable {W T P : Type} [Clock T]

/-- Waits until a tab has loaded, for as long as the configuration allows. -/
def awaitLoad (e : Engagement) (tab : TabRef) : Activity W T P Unit :=
  TabLoad.await tab e.config.loadTimeoutSec

/-- Goes to an address in the current tab, or in a new one when there is none. -/
def navigate (e : Engagement) (p : Mapping) (tab : TabRef) : Activity W T P StepResult := do
  let url := Mapping.named p "url"
  if !url.isTruthy then Activity.fail .noUrl
  else do
    let tab ← match tab with
      | some t => do
        Activity.call fun h : Host W T => h.update (some t) { url := some url.display }
        pure (some t)
      | none => do
        let t ← Activity.call fun h : Host W T => h.create url.display true
        pure (some t)
    awaitLoad e tab
    pure ⟨tab, none⟩

/-- Opens a tab, in front unless the block says otherwise. -/
def newTab (e : Engagement) (p : Mapping) : Activity W T P StepResult := do
  let url := Mapping.named p "url"
  let address := if url.isTruthy then url.display else "about:blank"
  let t ← Activity.call fun h : Host W T =>
    h.create address (Parameter.flag (Mapping.named p "active") true)
  awaitLoad e (some t)
  pure ⟨some t, none⟩

/-- Whether one text occurs in another. -/
def contains (text part : List Char) : Bool :=
  match text with
  | [] => part.isEmpty
  | c :: rest => part.isPrefixOf (c :: rest) || contains rest part

/-- The text of a parameter; values that count as absent have none. -/
def textOf (v : Value) : String := if v.isTruthy then v.display else ""

/-- Whether a tab is the one looked for, by title or address. -/
def isMatch (exact : Bool) (query : String) (t : Tab) : Bool :=
  let title := Text.lower t.title
  let url := Text.lower t.url
  if exact then title == query || url == query
  else contains title.toList query.toList || contains url.toList query.toList

/-- Brings the first tab to the front that has a text in its title or address. -/
def activateTab (p : Mapping) : Activity W T P StepResult := do
  let query := Text.lower (textOf (Mapping.named p "query"))
  let exact := Parameter.choice (Mapping.named p "match_type") "contains" == "exact"
  let tabs ← Activity.call fun h : Host W T => h.query none none
  match tabs.find? (isMatch exact query) with
  | some t => do
    Activity.call fun h : Host W T => h.update (some t.id) { active := some true }
    pure ⟨some t.id, none⟩
  | none => Activity.fail (.tabNotFound query)

/-- Tabs in the order of their positions; tabs at one position keep their order. -/
def byIndex (tabs : List Tab) : List Tab := tabs.mergeSort fun a b => a.index ≤ b.index

/-- The place of a tab in a list, the first place when it is not there. -/
def placeOf (tab : Handle) (tabs : List Tab) : Nat := (tabs.findIdx? (·.id == tab)).getD 0

/-- The tab next to the one at a place, around the ends of the list. -/
def neighbour? (tabs : List Tab) (place : Nat) (backwards : Bool) : Option Tab :=
  tabs[(if backwards then place + tabs.length - 1 else place + 1) % tabs.length]?

/-- Goes to the next or the previous tab of the window. -/
def switchTab (p : Mapping) (tab : TabRef) : Activity W T P StepResult := do
  match tab with
  | none => Activity.fail .noActiveTab
  | some t => do
    let current ← Activity.call fun h : Host W T => h.get (some t)
    let found ← Activity.call fun h : Host W T => h.query current.window none
    let tabs := byIndex found
    let backwards := Parameter.choice (Mapping.named p "direction") "next" == "previous"
    match neighbour? tabs (placeOf t tabs) backwards with
    | some target => do
      Activity.call fun h : Host W T => h.update (some target.id) { active := some true }
      pure ⟨some target.id, none⟩
    | none => pure ⟨some t, none⟩

/-- Closes the current tab, or all others of its window. -/
def closeTab (p : Mapping) (tab : TabRef) : Activity W T P StepResult := do
  if Parameter.choice (Mapping.named p "target") "current" = "others" then
    match tab with
    | none => Activity.fail .noActiveTab
    | some t => do
      let current ← Activity.call fun h : Host W T => h.get (some t)
      let tabs ← Activity.call fun h : Host W T => h.query current.window none
      let others := (tabs.filter (·.id != t)).map (·.id)
      if others ≠ [] then
        Activity.call fun h : Host W T => h.remove (others.map some)
      pure ⟨some t, none⟩
  else do
    if tab.isSome then Activity.call fun h : Host W T => h.remove [tab]
    let left ← Activity.call fun h : Host W T => h.query none (some true)
    pure ⟨left.head?.map (·.id), none⟩

/-- Pins the current tab or releases it. -/
def pinTab (p : Mapping) (tab : TabRef) : Activity W T P StepResult := do
  if tab.isSome then
    Activity.call fun h : Host W T =>
      h.update tab { pinned := some (Parameter.choice (Mapping.named p "action") "pin" == "pin") }
  pure ⟨tab, none⟩

/-- Mutes the current tab or lets it sound again. -/
def muteTab (p : Mapping) (tab : TabRef) : Activity W T P StepResult := do
  if tab.isSome then
    Activity.call fun h : Host W T =>
      h.update tab { muted := some (Parameter.choice (Mapping.named p "action") "mute" == "mute") }
  pure ⟨tab, none⟩

/-- Loads the current tab again. -/
def refresh (e : Engagement) (tab : TabRef) : Activity W T P StepResult := do
  if tab.isSome then
    Activity.call fun h : Host W T => h.reload tab
    awaitLoad e tab
  pure ⟨tab, none⟩

/-- Does nothing for a while. -/
def wait (e : Engagement) (p : Mapping) (tab : TabRef) : Activity W T P StepResult := do
  let millis ← Activity.ofExcept
    (Parameter.int? (Mapping.named p "duration") (some e.config.defaultWaitMs))
  let d ← Activity.ofExcept (Clock.ofMillis (T := T) (max 0 (millis.getD e.config.defaultWaitMs)))
  Activity.sleep d
  pure ⟨tab, none⟩

/-- Gives a variable a value. A second star in front of the name goes as well. -/
def setVariable (p : Mapping) (tab : TabRef) : StepResult :=
  let name := Variables.targetName (Mapping.named p "variable")
  ⟨tab, Variables.write? (.text name) (Mapping.named p "value")⟩

/-- A handle as a value. -/
def handleValue : Handle → Value
  | .number n => .int n
  | .name s => .text s

/-- Keeps the address, the title or the handle of the current tab. -/
def getTabInfo (p : Mapping) (tab : TabRef) : Activity W T P StepResult := do
  if tab.isSome then do
    let t ← Activity.call fun h : Host W T => h.get tab
    let what := Parameter.choice (Mapping.named p "info_type") "url"
    let value : Value :=
      if what = "url" then .text t.url
      else if what = "title" then .text t.title
      else handleValue t.id
    pure ⟨tab, Variables.write? (Mapping.named p "variable") value⟩
  else pure ⟨tab, none⟩

/-- Keeps a picture of the current tab. -/
def screenshot (tab : TabRef) : Activity W T P StepResult := do
  if tab.isSome then do
    let picture ← Activity.call fun h : Host W T => h.capture tab
    pure ⟨tab, some (Variables.screenshotName, picture)⟩
  else pure ⟨tab, none⟩

/-- Does what a kind of block asks for, with parameters whose references are replaced. -/
def perform (e : Engagement) (kind : BlockKind) (p : Mapping) (tab : TabRef) :
    Activity W T P StepResult :=
  match kind with
  | .navigate => navigate e p tab
  | .newTab => newTab e p
  | .activateTab => activateTab p
  | .switchTab => switchTab p tab
  | .closeTab => closeTab p tab
  | .pinTab => pinTab p tab
  | .muteTab => muteTab p tab
  | .refresh => refresh e tab
  | .wait => wait e p tab
  | .setVariable => pure (setVariable p tab)
  | .getTabInfo => getTabInfo p tab
  | .screenshot => screenshot tab
  | .click => Dispatch.perform e tab .click p
  | .type => Dispatch.perform e tab .type p
  | .select => Dispatch.perform e tab .select p
  | .scroll => Dispatch.perform e tab .scroll p
  | .hover => Dispatch.perform e tab .hover p
  | .keyboard => Dispatch.perform e tab .keyboard p
  | .waitForElement => Dispatch.perform e tab .waitForElement p
  | .readText => Dispatch.perform e tab .readText p
  | .readAttribute => Dispatch.perform e tab .readAttribute p
  | .readTable => Dispatch.perform e tab .readTable p
  | .condition | .loop | .forEach => Activity.fail (.notAStep kind.tag)

/-- Runs one block that does not steer the run. -/
def execute (e : Engagement) (store : Store) (b : Block) (tab : TabRef) :
    Activity W T P StepResult :=
  match b.kind? with
  | none => Activity.fail (.unknownType b.type)
  | some kind => perform e kind (Template.interpolateAll store b.params) tab

end BrowserFlow.Step
