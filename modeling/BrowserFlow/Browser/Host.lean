import BrowserFlow.Page.Result
import BrowserFlow.Page.Action

/-!
Hosts: what an engine can ask of a browser. A host answers in steps, so that it may take time;
while it does, requests to the engine may come in.
-/
namespace BrowserFlow
set_option autoImplicit false

/-- A request to an engine from outside. -/
inductive Request where
  | stop
  /-- A run of the flow with this name. -/
  | run (flow : String)
  deriving DecidableEq, Repr

/-- What a run knows of requests: the flow under way, whether a stop was asked for, and the
refusals that were given. -/
structure Control where
  /-- The name of the flow under way. -/
  active : Option String := none
  stopped : Bool := false
  refusals : List Fault := []
  deriving DecidableEq, Inhabited

namespace Control

/-- Takes in a request. A run is refused while another one is under way; without a run there is
nothing to stop. -/
def receive (c : Control) : Request → Control
  | .stop => if c.active.isSome then { c with stopped := true } else c
  | .run _ =>
    match c.active with
    | some name => { c with refusals := c.refusals ++ [.alreadyRunning (some name)] }
    | none => c

/-- Takes in requests in order. -/
def receiveAll (c : Control) (rs : List Request) : Control := rs.foldl receive c

end Control

/-- The tab that a call is about; there may be none. -/
abbrev TabRef := Option Handle

/-- A change of a tab; what is not given stays. -/
structure TabChange where
  url : Option String := none
  active : Option Bool := none
  pinned : Option Bool := none
  muted : Option Bool := none
  deriving DecidableEq, Repr, Inhabited

/-- A host answers at once, or sleeps and goes on. At every step it hands out its world and the
requests that came in. -/
inductive Reply (W T α : Type) where
  | done (world : W) (requests : List Request) (result : Except Fault α)
  | sleep (world : W) (requests : List Request) (duration : T) (resume : T → Reply W T α)

/-- A call is made at a moment, in a world. -/
abbrev Call (W T α : Type) : Type := T → W → Reply W T α

/-- A browser as an engine sees it: tabs, the actions inside their pages, and the requests that
arrive while the engine waits. -/
structure Host (W T : Type) where
  /-- Opens a tab at an address, in front or behind. -/
  create : String → Bool → Call W T Handle
  update : TabRef → TabChange → Call W T Unit
  get : TabRef → Call W T Tab
  reload : TabRef → Call W T Unit
  remove : List TabRef → Call W T Unit
  /-- The open tabs of a window, of every window when none is given, and active or not. -/
  query : Option Handle → Option Bool → Call W T (List Tab)
  /-- A picture of a tab. -/
  capture : TabRef → Call W T Value
  /-- Ends when the tab has loaded. -/
  awaitLoad : TabRef → Call W T Unit
  /-- Runs an action in a page; a page that could not be reached may give no answer. -/
  perform : TabRef → PageAction → Mapping → Call W T (Option PageResult)
  arrivals : T → W → W × List Request

end BrowserFlow
