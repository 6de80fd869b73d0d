/-!
Tabs of a browser and the handles that name them.
-/
namespace BrowserFlow
set_option autoImplicit false

/-- What a host names a tab or a window by. -/
inductive Handle where
  | number (n : Int)
  | name (s : String)
  deriving DecidableEq, Repr, Inhabited

/-- A handle inside a message. -/
def Handle.display : Handle → String
  | number n => toString n
  | name s => s

/-- A handle that may be missing, inside a message. -/
def Handle.displayOption : Option Handle → String
  | some h => h.display
  | none => "None"

/-- What a host reports about a tab at one moment. -/
structure Tab where
  id : Handle
  url : String := ""
  title : String := ""
  window : Option Handle := none
  index : Int := 0
  active : Bool := false
  deriving DecidableEq, Repr, Inhabited

end BrowserFlow
