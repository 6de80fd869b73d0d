import BrowserFlow.Browser.Host
import BrowserFlow.Page.Table
import BrowserFlow.Page.Words
import BrowserFlow.Parameter
import BrowserFlow.Text.Base64

/-!
A live browser: one window whose pages are registered under handles that are never used twice.
Whatever is asked of the browser program is written down as a command. A page may be closed from
outside, and then stays registered until it is removed.
-/
namespace BrowserFlow
set_option autoImplicit false

/-- What a page answers to a script. -/
inductive ScriptAnswer where
  | value (raw : Value)
  /-- The script could not run, for a reason in the words of the browser program. -/
  | broken (reason : String)

/-- A page of the browser. -/
structure LivePage where
  handle : Nat
  url : String := "about:blank"
  title : String := ""
  closed : Bool := false
  /-- What the page answers to the next scripts; after that it only reports success. -/
  answers : List ScriptAnswer := []
  /-- The picture of the page, as bytes. -/
  shot : List UInt8 := []

/-- What is asked of the browser program. -/
inductive LiveCommand where
  | connect
  | launch (headless : Bool)
  | openSession
  | closeSession
  | closeBrowser
  | disconnect
  | goto (page : Nat) (url : String)
  | front (page : Nat)
  | reload (page : Nat)
  | close (page : Nat)
  | screenshot (page : Nat)
  | awaitLoad (page : Nat)
  | evaluate (page : Nat) (action : PageAction) (params : Mapping)

/-- The live browser. -/
structure LiveBrowser where
  headless : Bool := true
  /-- What the browser program answers when a page that was closed from outside should come to the
  front; none when it does as it is told. -/
  frontRefusal : Option Fault := none
  started : Bool := false
  /-- The registered pages, in the order in which they were opened. -/
  pages : List LivePage := []
  /-- The handle of the next page. -/
  next : Nat := 1
  /-- The handle of the page in front. -/
  active : Option Nat := none
  commands : List LiveCommand := []

namespace LiveBrowser

/-- Writes a command down. -/
def issue (b : LiveBrowser) (c : LiveCommand) : LiveBrowser :=
  { b with commands := b.commands ++ [c] }

/-- Starts the browser program. -/
def start (b : LiveBrowser) : LiveBrowser :=
  { ((b.issue .connect).issue (.launch b.headless)).issue .openSession with started := true }

/-- Ends the browser program and forgets all pages, but not which handles were used. -/
def close (b : LiveBrowser) : LiveBrowser :=
  let ended :=
    if b.started then ((b.issue .closeSession).issue .closeBrowser).issue .disconnect else b
  { ended with started := false, pages := [], active := none }

/-! ## Pages -/

/-- The page with a handle, if it is registered and open. -/
def page? (b : LiveBrowser) (tab : TabRef) : Option LivePage :=
  match tab with
  | some (.number n) => b.pages.find? fun p => (p.handle : Int) == n && !p.closed
  | _ => none

/-- The page with a handle; one that is not open is a fault. -/
def page (b : LiveBrowser) (tab : TabRef) : Except Fault LivePage :=
  match b.page? tab with
  | some p => .ok p
  | none => .error (.tabNotOpen tab)

/-- Changes the page with a handle. -/
def updatePage (b : LiveBrowser) (handle : Nat) (f : LivePage → LivePage) : LiveBrowser :=
  { b with pages := b.pages.map fun p => if p.handle = handle then f p else p }

/-- Sends a page to an address. -/
def navigate (b : LiveBrowser) (handle : Nat) (url : String) : LiveBrowser :=
  (b.updatePage handle fun p => { p with url }).issue (.goto handle url)

/-- Brings a page to the front. -/
def activate (b : LiveBrowser) (handle : Nat) : LiveBrowser :=
  { b.issue (.front handle) with active := some handle }

/-- Opens a page. The first one comes to the front in any case. -/
def openPage (url : String) (active : Bool) (b : LiveBrowser) :
    LiveBrowser × Except Fault Handle :=
  if !b.started then (b, .error .browserNotStarted)
  else
    let handle := b.next
    let b := { b with next := handle + 1, pages := b.pages ++ [{ handle }] }
    let b := if url = "" ∨ url = "about:blank" then b else b.navigate handle url
    let b := if active || b.active.isNone then b.activate handle else b
    (b, .ok (.number handle))

/-- Changes a page; pages cannot be pinned or muted. -/
def changePage (tab : TabRef) (c : TabChange) (b : LiveBrowser) : LiveBrowser × Except Fault Unit :=
  match b.page tab with
  | .error f => (b, .error f)
  | .ok p =>
    let b := match c.url with
      | some url => b.navigate p.handle url
      | none => b
    (if c.active = some true then b.activate p.handle else b, .ok ())

/-- The only window. -/
def window : Handle := .number 1

/-- What there is to tell about a page. -/
def tabOf (b : LiveBrowser) (p : LivePage) : Tab :=
  { id := .number p.handle
    url := p.url
    title := p.title
    window := some window
    index := (b.pages.findIdx fun q => q.handle == p.handle : Nat)
    active := b.active == some p.handle }

/-- The tab with a handle. -/
def tab (b : LiveBrowser) (tab : TabRef) : Except Fault Tab := (b.page tab).map b.tabOf

/-- The tabs of a window, active or not. A page that was closed from outside is a fault. -/
def tabs (b : LiveBrowser) (window : Option Handle) (active : Option Bool) :
    Except Fault (List Tab) := do
  let all ← b.pages.mapM fun p => b.tab (some (.number p.handle))
  pure (all.filter fun t =>
    (window.isNone || t.window == window) && (active.isNone || some t.active == active))

/-- Takes a page out of the register and closes it, unless it is closed already. -/
def removePage (b : LiveBrowser) (tab : TabRef) : LiveBrowser :=
  match tab with
  | some (.number n) =>
    match b.pages.find? fun p => (p.handle : Int) == n with
    | some p =>
      let left := { b with pages := b.pages.filter fun q => q.handle ≠ p.handle }
      if p.closed then left else left.issue (.close p.handle)
    | none => b
  | _ => b

/-- When the page in front is gone, the page that was opened last comes to the front. -/
def refocus (b : LiveBrowser) : LiveBrowser :=
  if b.active.any fun h => b.pages.any fun p => p.handle == h then b
  else
    match b.pages.getLast? with
    | some p => b.activate p.handle
    | none => { b with active := none }

/-- The fault of bringing that page to the front. -/
def refocusFault? (b : LiveBrowser) : Option Fault :=
  if b.active.any fun h => b.pages.any fun p => p.handle == h then none
  else if b.pages.getLast?.any (·.closed) then b.frontRefusal
  else none

/-- Removes pages; handles that name none are passed over. -/
def removePages (tabs : List TabRef) (b : LiveBrowser) : LiveBrowser :=
  (tabs.foldl removePage b).refocus

/-- The fault of removing pages. They are gone all the same. -/
def removalFault? (tabs : List TabRef) (b : LiveBrowser) : Option Fault :=
  (tabs.foldl removePage b).refocusFault?

/-- Removes pages, and tells whether the next page came to the front. -/
def closePages (tabs : List TabRef) (b : LiveBrowser) : LiveBrowser × Except Fault Unit :=
  (b.removePages tabs, match b.removalFault? tabs with
    | some f => .error f
    | none => .ok ())

/-- Does something with an open page. -/
def withPage {α : Type} (tab : TabRef) (b : LiveBrowser) (f : LivePage → LiveBrowser × α) :
    LiveBrowser × Except Fault α :=
  match b.page tab with
  | .ok p => let (b, a) := f p; (b, .ok a)
  | .error e => (b, .error e)

/-- The picture of a page, as the address of an image. -/
def picture (p : LivePage) : Value := .text ("data:image/png;base64," ++ Text.base64 p.shot)

/-! ## Actions -/

/-- The parameters of an action as the page gets them. -/
def sentParams (action : PageAction) (params : Mapping) : Mapping :=
  if action = .type then
    Mapping.insert params (.text "clear")
      (.bool (Parameter.flag (Mapping.named params "clear") false))
  else params

/-- The answer that a raw value is; nothing is an answer without fields. -/
def resultOf (raw : Value) : Except Fault PageResult :=
  match raw with
  | .mapping m => .ok (PageResult.ofMapping m)
  | v => if v.isTruthy then .error (.missingAttribute v.kind "get")
    else .ok (PageResult.ofMapping [])

/-- Finishes an answer: words are picked out of a text, and cells become records. -/
def finish (action : PageAction) (params : Mapping) (r : PageResult) : Except Fault PageResult :=
  if r.error.isTruthy then .ok r
  else
    match action, r.data with
    | .readText, .text s =>
      .ok { r with data := .text (selectWords s (Mapping.named params "word_index")) }
    | .readText, v =>
      if v.isTruthy then .error (.missingAttribute v.kind "strip")
      else .ok { r with data := .text (selectWords "" (Mapping.named params "word_index")) }
    | .readTable, .mapping m =>
      let rows := Mapping.named m "rows"
      (Table.recordsOfValues (Mapping.named m "headers")
        (if rows.isTruthy then rows else .list [])).map
        fun rs => { r with data := Table.toValue rs }
    | _, _ => .ok r

/-- Runs an action in a page. -/
def evaluate (tab : TabRef) (action : PageAction) (params : Mapping) (b : LiveBrowser) :
    LiveBrowser × Except Fault (Option PageResult) :=
  match b.page tab with
  | .error f => (b, .error f)
  | .ok p =>
    let sent := sentParams action params
    let b := (b.updatePage p.handle fun p => { p with answers := p.answers.drop 1 }).issue
      (.evaluate p.handle action sent)
    match p.answers.head?.getD (.value (.record [("success", .bool true)])) with
    | .broken reason => (b, .error (.scriptBroken (.number p.handle) reason))
    | .value raw => (b, ((resultOf raw).bind (finish action sent)).map some)

/-! ## The host -/

/-- A call that is answered at once. -/
def atOnce {T α : Type} (f : LiveBrowser → LiveBrowser × Except Fault α) :
    Call LiveBrowser T α := fun _ b =>
  let (b, r) := f b
  .done b [] r

/-- The live browser as a host. -/
def host {T : Type} : Host LiveBrowser T where
  create url active := atOnce (openPage url active)
  update tab change := atOnce (changePage tab change)
  get tab := atOnce fun b => (b, b.tab tab)
  reload tab := atOnce fun b => b.withPage tab fun p => (b.issue (.reload p.handle), ())
  remove tabs := atOnce (closePages tabs)
  query window active := atOnce fun b => (b, b.tabs window active)
  capture tab := atOnce fun b =>
    b.withPage tab fun p => (b.issue (.screenshot p.handle), picture p)
  awaitLoad tab := atOnce fun b => b.withPage tab fun p => (b.issue (.awaitLoad p.handle), ())
  perform tab action params := atOnce (evaluate tab action params)
  arrivals _ b := (b, [])

end LiveBrowser

end BrowserFlow
