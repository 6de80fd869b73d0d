import BrowserFlow.Dictionary
import BrowserFlow.Value

/-!
Variables of a run: values under names, the latest value of a name counting.
-/
namespace BrowserFlow
set_option autoImplicit false

/-- Variables in the order in which their names were first given a value. -/
abbrev Store := Dictionary Value

namespace Store

/-- The value of a name. -/
def get? (s : Store) (name : String) : Option Value := s.lookup name

/-- Gives a name a value; a name that is bound keeps its place. -/
def set (s : Store) (name : String) (value : Value) : Store := s.put name value

theorem get?_set (s : Store) (name other : String) (value : Value) :
    (s.set name value).get? other = if other = name then some value else s.get? other :=
  s.lookup_put name value other

theorem get?_set_self (s : Store) (name : String) (value : Value) :
    (s.set name value).get? name = some value := by
  rw [get?_set, if_pos rfl]

theorem get?_set_of_ne (s : Store) (name other : String) (value : Value) (h : other ≠ name) :
    (s.set name value).get? other = s.get? other := by
  rw [get?_set, if_neg h]

end Store

end BrowserFlow
