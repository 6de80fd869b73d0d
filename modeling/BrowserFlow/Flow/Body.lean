import BrowserFlow.Flow.Basic

/-!
Repeater bodies. The body of a repeater is the longest run of blocks after it that holds no
repeater.
-/
namespace BrowserFlow
set_option autoImplicit false

/-- The positions from `start` up to but without `stop`. -/
structure BodyRange where
  start : Nat
  stop : Nat
  deriving DecidableEq, Repr

namespace BodyRange

/-- The last position, one before the start when there is none. -/
def lastIndex (r : BodyRange) : Int := (r.stop : Int) - 1

def isEmpty (r : BodyRange) : Bool := r.stop ≤ r.start

def size (r : BodyRange) : Nat := r.stop - r.start

/-- The blocks of a list at these positions. -/
def select (r : BodyRange) (blocks : List Block) : List Block :=
  (blocks.take r.stop).drop r.start

/-- The positions after a repeater up to the next repeater or the end. -/
def after (blocks : List Block) (index : Nat) : BodyRange :=
  ⟨index + 1, index + 1 + ((blocks.drop (index + 1)).takeWhile (!·.isRepeater)).length⟩

/-- The body of a repeater; it must not be empty. -/
def ofRepeater (blocks : List Block) (index : Nat) : Except Fault BodyRange :=
  let r := after blocks index
  if r.isEmpty then
    match blocks[index]? with
    | some b => .error (.emptyBody b.label)
    | none => .error .missingIndex
  else .ok r

end BodyRange

end BrowserFlow
