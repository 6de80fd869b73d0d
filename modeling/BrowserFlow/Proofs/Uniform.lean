import BrowserFlow.Proofs.Composition

/-!
Activities that read the same over every kind of host. Two readings of an activity are put together
alike; what they have in common is then shown once, by induction on how they are put together, and
not again for each step.

* `Activity.Alike`: two activities are put together in the same way. Only those that listen look
  at stops or ask for one.
* `Activity.Uniform`: all readings of an activity are alike.
* `Activity.Alike.composed`: the readings of every step and every check are alike.
-/
namespace BrowserFlow
set_option autoImplicit false

variable {W W' T P α β : Type}

namespace Activity

variable [Clock T]

inductive Alike (listens : Prop) : {P α : Type} → Activity W T P α → Activity W' T P α → Prop
  | pure {P α : Type} (a : α) :
      Alike listens (Pure.pure a : Activity W T P α) (Pure.pure a : Activity W' T P α)
  | fail {P α : Type} (f : Fault) :
      Alike listens (Activity.fail f : Activity W T P α) (Activity.fail f : Activity W' T P α)
  | forever {P α : Type} :
      Alike listens (Activity.forever : Activity W T P α) (Activity.forever : Activity W' T P α)
  | get {P : Type} : Alike listens (Activity.get : Activity W T P P) Activity.get
  | modify {P : Type} (f : P → P) : Alike listens (Activity.modify f) (Activity.modify f)
  | now {P : Type} : Alike listens (Activity.now : Activity W T P T) Activity.now
  | yield {P : Type} : Alike listens (Activity.yield : Activity W T P Unit) Activity.yield
  | sleep {P : Type} (d : T) :
      Alike listens (Activity.sleep d : Activity W T P Unit) (Activity.sleep d)
  | call {P α : Type} (q : Host.Question α) :
      Alike listens (Activity.call q.ask : Activity W T P α) (Activity.call q.ask)
  | bind {P α β : Type} {x : Activity W T P α} {x' : Activity W' T P α}
      {f : α → Activity W T P β} {f' : α → Activity W' T P β} :
      Alike listens x x' → (∀ a, Alike listens (f a) (f' a)) → Alike listens (x >>= f) (x' >>= f')
  | attempt {P α : Type} {x : Activity W T P α} {x' : Activity W' T P α} :
      Alike listens x x' → Alike listens x.attempt x'.attempt
  | ensuring {P α : Type} {x : Activity W T P α} {x' : Activity W' T P α} (f : P → P) :
      Alike listens x x' → Alike listens (x.ensuring f) (x'.ensuring f)
  | lift {P α : Type} {x : Errand W T α} {x' : Errand W' T α} :
      Alike listens x x' → Alike listens (x.lift : Activity W T P α) x'.lift
  | within {P α : Type} {x : Activity W T P α} {x' : Activity W' T P α} (seconds : Float)
      (late : Fault) : Alike listens x x' →
      Alike listens (Activity.within seconds late x) (Activity.within seconds late x')
  | stopped {P : Type} : listens →
      Alike listens (Activity.stopped : Activity W T P Bool) Activity.stopped
  | stop {P : Type} : listens →
      Alike listens (Activity.request .stop : Activity W T P Unit) (Activity.request .stop)

/-- All readings of an activity are alike. -/
def Uniform (listens : Prop) (x : (W : Type) → Activity W T P α) : Prop :=
  ∀ W W', Alike listens (x W) (x W')

namespace Alike

/-- Readings that are alike stay so, however they are put together; counting is no exception. -/
theorem composed (l : Prop) (pollMs : Int) :
    Composed True True pollMs
      fun P α (x : Activity W T P α) (x' : Activity W' T P α) => Alike l x x' :=
  Closed.composed {
    pure := .pure
    fail := .fail
    get := .get
    modify := .modify
    now := .now
    sleep := .sleep
    call := fun q _ _ => .call q
    bind := .bind
    attempt := .attempt
    lift := .lift
    within := .within } .forever pollMs

end Alike
end Activity

end BrowserFlow
