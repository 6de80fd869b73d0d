import BrowserFlow.Browser.Host
import BrowserFlow.Page.Table
import BrowserFlow.Page.Words

/-!
A simulated browser: tabs, elements that come and go with time, loading times, and a script of
answers that take the place of the page's own. Every call that changes something is written down.
-/
namespace BrowserFlow
set_option autoImplicit false

/-- An element of the simulated page. -/
structure SimElement where
  text : String := ""
  visible : Bool := true
  attributes : Mapping := []
  /-- How many children match a selector. -/
  children : Mapping := []
  headers : Value := .null
  rows : Value := .list []
  verified : Value := .bool true
  /-- The moment from which the element is there, in seconds. -/
  appears : Float := 0.0
  /-- The moment from which it is gone. -/
  disappears : Option Float := none
  deriving Inhabited

/-- Whether an element is on the page. -/
def SimElement.isPresent (e : SimElement) (now : Float) : Bool :=
  e.appears ≤ now &&
    match e.disappears with
    | some t => !(t ≤ now)
    | none => true

/-- What a script entry answers. -/
inductive ScriptedReply where
  | fails (fault : Fault)
  | nothing
  | answers (result : PageResult)
  /-- The page answers itself. -/
  | page

/-- An answer that takes the place of the page's own, a number of times. -/
structure ScriptEntry where
  action : Option String := none
  selector : Option Value := none
  times : Int := 1
  /-- How long the answer takes, in seconds. -/
  delay : Float := 0.0
  /-- Whether a stop is asked for when the answer is given. -/
  stops : Bool := false
  reply : ScriptedReply := .page

/-- A call that was written down. -/
structure CallRecord where
  time : Float
  name : String
  arguments : List Value

/-- An action that was written down. -/
structure ActionRecord where
  time : Float
  action : PageAction
  tab : TabRef
  params : Mapping

/-- The simulated browser. -/
structure SimBrowser where
  tabs : List Tab := []
  nextId : Int := 100
  elements : List (String × SimElement) := []
  /-- How long an address takes to load, in seconds; addresses that are not here load at once. -/
  loadTimes : List (String × Float) := []
  /-- The picture of every tab, when it is not made up from the handle. -/
  shot : Value := .null
  /-- Methods that fail. -/
  failures : List (String × Fault) := []
  /-- Whether tabs are never listed. -/
  hidesTabs : Bool := false
  script : List ScriptEntry := []
  /-- The calls that were written down, the latest first. -/
  pastCalls : List CallRecord := []
  /-- The actions that were written down, the latest first. -/
  pastActions : List ActionRecord := []
  /-- Requests to the engine that wait for its first pause. -/
  waiting : List Request := []

namespace SimBrowser

/-- The calls that were written down, in order. -/
def calls (b : SimBrowser) : List CallRecord := b.pastCalls.reverse

/-- The actions that were written down, in order. -/
def actions (b : SimBrowser) : List ActionRecord := b.pastActions.reverse

/-- The browser with nothing written down. -/
def withCleanRecords (b : SimBrowser) : SimBrowser := { b with pastCalls := [], pastActions := [] }

/-- The loading time of a page that never ends loading. -/
def endless : Float := 1000000000.0

def tab? (b : SimBrowser) (tab : TabRef) : Option Tab :=
  tab.bind fun id => b.tabs.find? (·.id == id)

/-- Replaces the tab with a handle. -/
def updateTab (b : SimBrowser) (id : Handle) (f : Tab → Tab) : SimBrowser :=
  { b with tabs := b.tabs.map fun t => if t.id = id then f t else t }

/-- Brings a tab to the front of its window. -/
def activate (b : SimBrowser) (t : Tab) : SimBrowser :=
  { b with tabs := b.tabs.map fun u =>
      if u.id = t.id then { u with active := true }
      else if u.window = t.window then { u with active := false }
      else u }

def record (b : SimBrowser) (now : Float) (name : String) (arguments : List Value) :
    SimBrowser :=
  { b with pastCalls := ⟨now, name, arguments⟩ :: b.pastCalls }

/-- The value of a handle in a record. -/
def refValue : TabRef → Value
  | some (.number n) => .int n
  | some (.name s) => .text s
  | none => .null

/-- Ends a call, with the failure that is set for the method if there is one. -/
def answer {α : Type} (b : SimBrowser) (name : String)
    (result : SimBrowser → SimBrowser × Except Fault α) : Reply SimBrowser Float α :=
  match b.failures.lookup name with
  | some f => .done b [] (.error f)
  | none => let (b, r) := result b; .done b [] r

/-- Does something with an open tab. -/
def withTab {α : Type} (tab : TabRef) (f : SimBrowser → Tab → SimBrowser × α)
    (b : SimBrowser) : SimBrowser × Except Fault α :=
  match b.tab? tab with
  | some t => let (b, a) := f b t; (b, .ok a)
  | none => (b, .error (.tabNotOpen tab))

def create (url : String) (active : Bool) : Call SimBrowser Float Handle := fun now b =>
  (b.record now "create" [.text url, .bool active]).answer "create" fun b =>
    let t : Tab := { id := .number b.nextId, url, window := some (.number 1),
                     index := b.tabs.length }
    let b := { b with tabs := b.tabs ++ [t], nextId := b.nextId + 1 }
    (if active then b.activate t else b, .ok t.id)

/-- The given parts of a change, as they are written down. -/
def changeValue (c : TabChange) : Value :=
  .record ((c.url.map fun u => ("url", Value.text u)).toList ++
    (c.active.map fun x => ("active", Value.bool x)).toList ++
    (c.pinned.map fun x => ("pinned", Value.bool x)).toList ++
    (c.muted.map fun x => ("muted", Value.bool x)).toList)

def update (tab : TabRef) (c : TabChange) : Call SimBrowser Float Unit := fun now b =>
  (b.record now "update" [refValue tab, changeValue c]).answer "update" <| withTab tab fun b t =>
    let b := match c.url with
      | some url => b.updateTab t.id fun t => { t with url }
      | none => b
    (if c.active = some true then b.activate t else b, ())

def get (tab : TabRef) : Call SimBrowser Float Tab := fun _ b =>
  b.answer "get" <| withTab tab fun b t => (b, t)

def reload (tab : TabRef) : Call SimBrowser Float Unit := fun now b =>
  (b.record now "reload" [refValue tab]).answer "reload" <| withTab tab fun b _ => (b, ())

/-- Closes tabs; when none of the others is in front, the last one comes to the front. -/
def close (b : SimBrowser) (tabs : List TabRef) : SimBrowser :=
  let left := b.tabs.filter fun t => !tabs.contains (some t.id)
  if left.any (·.active) then { b with tabs := left }
  else
    { b with
      tabs := left.dropLast ++ left.getLast?.toList.map fun t => { t with active := true } }

def remove (tabs : List TabRef) : Call SimBrowser Float Unit := fun now b =>
  (b.record now "remove" [.list (tabs.map refValue)]).answer "remove" fun b =>
    (b.close tabs, .ok ())

def query (window : Option Handle) (active : Option Bool) : Call SimBrowser Float (List Tab) :=
  fun _ b => b.answer "query" fun b =>
    if b.hidesTabs then (b, .ok [])
    else (b, .ok (b.tabs.filter fun t =>
      (window.isNone || t.window == window) && (active.isNone || some t.active == active)))

def capture (tab : TabRef) : Call SimBrowser Float Value := fun now b =>
  (b.record now "capture_visible" [refValue tab]).answer "capture_visible" fun b =>
    (b, .ok (if b.shot = .null then .text ("shot-" ++ Handle.displayOption tab) else b.shot))

def awaitLoad (tab : TabRef) : Call SimBrowser Float Unit := fun _ b =>
  match b.failures.lookup "wait_for_load" with
  | some f => .done b [] (.error f)
  | none =>
    match b.tab? tab with
    | none => .done b [] (.error (.tabNotOpen tab))
    | some t =>
      match b.loadTimes.lookup t.url with
      | some d => .sleep b [] d fun _ => .done b [] (.ok ())
      | none => .done b [] (.ok ())

/-- The element that a selector names now. -/
def element? (b : SimBrowser) (now : Float) (selector : Value) : Option SimElement :=
  match selector with
  | .text "" => none
  | .text s => (b.elements.lookup s).filter (·.isPresent now)
  | _ => none

/-- What the page itself answers. -/
def pageAnswer (b : SimBrowser) (now : Float) (action : PageAction) (params : Mapping) :
    Except Fault PageResult :=
  let selector := Mapping.named params "selector"
  let element := b.element? now selector
  match action with
  | .exists => .ok (.ofData (.bool element.isSome))
  | .inspect =>
    match element with
    | some e => .ok (.ofData (.record [("found", .bool true), ("visible", .bool e.visible),
        ("text", .text e.text)]))
    | none => .ok (.ofData (.record [("found", .bool false)]))
  | .count =>
    match element with
    | some e =>
      .ok (.ofData
        ((Mapping.get? e.children (Mapping.named params "child_selector")).getD (.int 0)))
    | none => .ok (.ofProblem ("List not found: " ++ selector.display))
  | action =>
    if selector.isTruthy && element.isNone && action != .waitForElement then
      .ok (.ofProblem ("Element not found: " ++ selector.display))
    else if (element.any fun e => !e.visible) && !action.ignoresVisibility then
      .ok (.ofProblem "Element is not visible (hidden)")
    else
      match action with
      | .readText =>
        .ok (.ofData (.text (selectWords ((element.map (·.text)).getD "")
          (Mapping.named params "word_index"))))
      | .readAttribute =>
        let attributes := (element.map (·.attributes)).getD []
        .ok (.ofData ((Mapping.get? attributes (Mapping.named params "attribute")).getD .null))
      | .readTable =>
        match element with
        | some e =>
          (Table.recordsOfValues e.headers e.rows).map fun rs => .ofData (Table.toValue rs)
        | none => .ok (.ofData (.list []))
      | .type =>
        let verified := (element.map (·.verified)).getD (.bool true)
        .ok (.of true .null .null verified false)
      | _ => .ok (.of true .null .null .null false)

/-- Whether a script entry is for an action. -/
def ScriptEntry.matches (e : ScriptEntry) (action : PageAction) (params : Mapping) : Bool :=
  0 < e.times && (e.action.all (· == action.name)) &&
    (e.selector.all (· == Mapping.named params "selector"))

/-- Takes the first entry for an action out of the script, once. -/
def takeEntry (action : PageAction) (params : Mapping) :
    List ScriptEntry → Option ScriptEntry × List ScriptEntry
  | [] => (none, [])
  | e :: es =>
    if ScriptEntry.matches e action params then (some e, { e with times := e.times - 1 } :: es)
    else
      let (found, es) := takeEntry action params es
      (found, e :: es)

/-- Gives the answer of a script entry, after its delay. -/
def scripted (b : SimBrowser) (now : Float) (e : ScriptEntry) (action : PageAction)
    (params : Mapping) : Reply SimBrowser Float (Option PageResult) :=
  let requests : List Request := if e.stops then [.stop] else []
  match e.reply with
  | .fails f => .done b requests (.error f)
  | .nothing => .done b requests (.ok none)
  | .answers r => .done b requests (.ok (some r))
  | .page => .done b requests ((b.pageAnswer now action params).map some)

def perform (tab : TabRef) (action : PageAction) (params : Mapping) :
    Call SimBrowser Float (Option PageResult) := fun now b =>
  let b := { b with pastActions := ⟨now, action, tab, params⟩ :: b.pastActions }
  match b.failures.lookup "execute_in_page" with
  | some f => .done b [] (.error f)
  | none =>
    match takeEntry action params b.script with
    | (none, _) => .done b [] ((b.pageAnswer now action params).map some)
    | (some e, script) =>
      let b := { b with script }
      if 0.0 < e.delay then
        .sleep b [] e.delay fun now => scripted b now e action params
      else scripted b now e action params

/-- The simulated browser as a host. -/
def host : Host SimBrowser Float where
  create := create
  update := update
  get := get
  reload := reload
  remove := remove
  query := query
  capture := capture
  awaitLoad := awaitLoad
  perform := perform
  arrivals _ b := ({ b with waiting := [] }, b.waiting)

end SimBrowser

end BrowserFlow
