import BrowserFlow.Proofs.Activity
import BrowserFlow.Run.Progress

/-!
How activities are put together. An activity reaches its host by questions only, and it is made of
questions, pauses and changes of its own state in a few ways. What each of these ways keeps, every
step and every check keeps: this is shown here once, for any property of one activity and for any
relation between an activity and its reading over another kind of host.

* `Host.Question`: what can be asked of a host.
* `Activity.Closed`, `Activity.Composed`: a relation that is kept.
* `Activity.Composed.block`: it holds of every block that is run.
-/
namespace BrowserFlow
set_option autoImplicit false

variable {W W' T P α β : Type}

inductive Host.Question : Type → Type where
  | create (url : String) (front : Bool) : Question Handle
  | update (tab : TabRef) (change : TabChange) : Question Unit
  | get (tab : TabRef) : Question Tab
  | reload (tab : TabRef) : Question Unit
  | remove (tabs : List TabRef) : Question Unit
  | query (window : Option Handle) (active : Option Bool) : Question (List Tab)
  | capture (tab : TabRef) : Question Value
  | awaitLoad (tab : TabRef) : Question Unit
  | perform (tab : TabRef) (action : PageAction) (params : Mapping) : Question (Option PageResult)

def Host.Question.ask (q : Question α) (h : Host W T) : Call W T α :=
  q.casesOn h.create h.update h.get h.reload h.remove h.query h.capture h.awaitLoad h.perform

/-- Whether a page is asked how many items it has. -/
def Host.Question.Counts : Question α → Prop
  | perform _ action _ => action = .count
  | _ => False

/-- Whether tabs are to be closed. -/
def Host.Question.Removes : Question α → Prop
  | remove _ => True
  | _ => False

namespace Activity

variable [Clock T]

/-- A relation that is kept by all ways of putting activities together. Only those that count ask a
page how many items it has, and only those that remove close tabs. -/
structure Closed (counting removing : Prop)
    (R : ⦃P α : Type⦄ → Activity W T P α → Activity W' T P α → Prop) : Prop where
  pure : ∀ {P α : Type} (a : α), R (Pure.pure a : Activity W T P α) (Pure.pure a)
  fail : ∀ {P α : Type} (f : Fault), R (Activity.fail f : Activity W T P α) (Activity.fail f)
  get : ∀ {P : Type}, R (Activity.get : Activity W T P P) Activity.get
  modify : ∀ {P : Type} (f : P → P), R (Activity.modify f : Activity W T P Unit) (Activity.modify f)
  now : ∀ {P : Type}, R (Activity.now : Activity W T P T) Activity.now
  sleep : ∀ {P : Type} (d : T), R (Activity.sleep d : Activity W T P Unit) (Activity.sleep d)
  call : ∀ {P α : Type} (q : Host.Question α), (q.Counts → counting) → (q.Removes → removing) →
    R (Activity.call q.ask : Activity W T P α) (Activity.call q.ask)
  bind : ∀ {P α β : Type} {x : Activity W T P α} {x' : Activity W' T P α}
    {f : α → Activity W T P β} {f' : α → Activity W' T P β}, R x x' → (∀ a, R (f a) (f' a)) →
    R (x >>= f) (x' >>= f')
  attempt : ∀ {P α : Type} {x : Activity W T P α} {x' : Activity W' T P α}, R x x' →
    R x.attempt x'.attempt
  lift : ∀ {P α : Type} {x : Errand W T α} {x' : Errand W' T α}, R x x' →
    R (x.lift : Activity W T P α) x'.lift
  within : ∀ {P α : Type} {x : Activity W T P α} {x' : Activity W' T P α} (seconds : Float)
    (late : Fault), R x x' → R (Activity.within seconds late x) (Activity.within seconds late x')

/-- It holds of waits for an element with this interval as well. These stand apart, since they are
written with a bound on their polls. -/
structure Composed (counting removing : Prop) (pollMs : Int)
    (R : ⦃P α : Type⦄ → Activity W T P α → Activity W' T P α → Prop) : Prop
    extends Closed counting removing R where
  require : ∀ {P : Type} (tab : TabRef) (selector : String) (timeoutMs : Int),
    R (ElementWait.require tab selector timeoutMs pollMs : Activity W T P WaitReport)
      (ElementWait.require tab selector timeoutMs pollMs)

namespace Closed

variable {counting removing : Prop}
  {R : ⦃P α : Type⦄ → Activity W T P α → Activity W' T P α → Prop}

omit [Clock T] in
theorem ite {c : Prop} [Decidable c] {x y : Activity W T P α} {x' y' : Activity W' T P α}
    (hx : R x x') (hy : R y y') : R (if c then x else y) (if c then x' else y') := by
  split
  · exact hx
  · exact hy

variable (hR : Closed counting removing R)
include hR

theorem ofExcept (e : Except Fault α) :
    R (Activity.ofExcept e : Activity W T P α) (Activity.ofExcept e) := by
  cases e with
  | ok a => exact hR.pure a
  | error f => exact hR.fail f

/-! ## Retries -/

theorem pause (r : RetryPolicy) : R (r.pause : Activity W T P Unit) r.pause := by
  unfold RetryPolicy.pause
  refine ite (hR.bind (hR.ofExcept _) fun d => ?_) (hR.pure ())
  exact hR.sleep d

theorem runFrom (r : RetryPolicy) {x : Activity W T P α} {x' : Activity W' T P α} (hx : R x x')
    (left : Nat) : R (r.runFrom x left) (r.runFrom x' left) := by
  induction left with
  | zero => exact hx
  | succ left ih =>
    refine hR.bind (hR.attempt hx) fun e => ?_
    cases e with
    | ok a => exact hR.pure a
    | error f => exact ite (hR.bind (hR.pause r) fun _ => ih) (hR.fail f)

/-! ## Pages -/

theorem check (tab : TabRef) (selector : String) :
    R (ElementWait.check tab selector : Activity W T P Bool) (ElementWait.check tab selector) := by
  have ask : R
      (Activity.call fun h : Host W T =>
        h.perform tab .exists [(.text "selector", .text selector)] :
        Activity W T P (Option PageResult))
      (Activity.call fun h : Host W' T =>
        h.perform tab .exists [(.text "selector", .text selector)]) :=
    hR.call (.perform _ _ _) nofun nofun
  refine hR.bind (hR.attempt ask) fun e => ?_
  cases e with
  | ok r => cases r <;> exact hR.pure _
  | error f => exact ite (hR.pure _) (hR.fail f)

/-- A relation that holds of what never ends holds of every wait for an element. -/
theorem composed (hforever : ∀ {P α : Type}, R (Activity.forever : Activity W T P α)
    Activity.forever) (pollMs : Int) : Composed counting removing pollMs R where
  toClosed := hR
  require {P} tab selector timeoutMs := by
    have poll (start deadline interval : T) (polls fuel : Nat) :
        R (ElementWait.pollFrom tab selector start deadline interval polls fuel :
            Activity W T P WaitReport)
          (ElementWait.pollFrom tab selector start deadline interval polls fuel) := by
      induction fuel generalizing polls with
      | zero => exact hforever
      | succ fuel ih =>
        refine hR.bind (hR.check tab selector) fun found => hR.bind hR.now fun t => ?_
        exact ite (hR.pure _) (ite (hR.pure _) (hR.bind (hR.sleep _) fun _ => ih _))
    have run : R (ElementWait.run tab selector timeoutMs pollMs : Activity W T P WaitReport)
        (ElementWait.run tab selector timeoutMs pollMs) :=
      hR.bind hR.now fun _ => hR.bind (hR.ofExcept _) fun _ => hR.bind (hR.ofExcept _) fun _ =>
        poll _ _ _ _ _
    exact hR.bind run fun _ => ite (hR.bind (hR.ofExcept _) fun _ => hR.fail _) (hR.pure _)

theorem query (e : Engagement) (tab : TabRef) {action : PageAction}
    (ha : action = .count → counting)
    (params : Mapping) :
    R (Dispatch.query e tab action params : Activity W T P PageResult)
      (Dispatch.query e tab action params) := by
  have ask : R (Dispatch.ask tab action params : Activity W T P PageResult)
      (Dispatch.ask tab action params) := by
    refine hR.bind (hR.call (.perform tab action params) ha nofun) fun r => ?_
    cases r with
    | some r => exact hR.pure r
    | none => exact hR.fail _
  exact hR.bind (hR.runFrom e.retry ask _) fun r => ite (hR.fail _) (hR.pure r)

/-! ## Tabs -/

theorem awaitLoad (e : Engagement) (tab : TabRef) :
    R (Step.awaitLoad e tab : Activity W T P Unit) (Step.awaitLoad e tab) :=
  hR.within _ _ (hR.call (.awaitLoad tab) nofun nofun)

theorem navigate (e : Engagement) (params : Mapping) (tab : TabRef) :
    R (Step.navigate e params tab : Activity W T P StepResult) (Step.navigate e params tab) := by
  have arrive (t : TabRef) :
      R (Step.awaitLoad e t >>= fun _ => Pure.pure ⟨t, none⟩ : Activity W T P StepResult)
        (Step.awaitLoad e t >>= fun _ => Pure.pure ⟨t, none⟩) :=
    hR.bind (hR.awaitLoad e t) fun _ => hR.pure _
  refine ite (hR.fail _) ?_
  cases tab with
  | some t => exact hR.bind (hR.call (.update _ _) nofun nofun) fun _ => hR.bind (hR.pure _) arrive
  | none => exact hR.bind (hR.call (.create _ _) nofun nofun) fun t => hR.bind (hR.pure _) arrive

theorem newTab (e : Engagement) (params : Mapping) :
    R (Step.newTab e params : Activity W T P StepResult) (Step.newTab e params) :=
  hR.bind (hR.call (.create _ _) nofun nofun) fun t => hR.bind (hR.awaitLoad e t) fun _ => hR.pure _

theorem activateTab (params : Mapping) :
    R (Step.activateTab params : Activity W T P StepResult) (Step.activateTab params) := by
  refine hR.bind (hR.call (.query _ _) nofun nofun) fun tabs => ?_
  split
  · exact hR.bind (hR.call (.update _ _) nofun nofun) fun _ => hR.pure _
  · exact hR.fail _

theorem switchTab (params : Mapping) (tab : TabRef) :
    R (Step.switchTab params tab : Activity W T P StepResult) (Step.switchTab params tab) := by
  unfold Step.switchTab
  cases tab with
  | none => exact hR.fail _
  | some t =>
    refine hR.bind (hR.call (.get _) nofun nofun) fun current =>
      hR.bind (hR.call (.query _ _) nofun nofun) fun found => ?_
    dsimp only
    split
    · exact hR.bind (hR.call (.update _ _) nofun nofun) fun _ => hR.pure _
    · exact hR.pure _

theorem closeTab (hr : removing) (params : Mapping) (tab : TabRef) :
    R (Step.closeTab params tab : Activity W T P StepResult) (Step.closeTab params tab) := by
  unfold Step.closeTab
  refine ite ?_ ?_
  · cases tab with
    | none => exact hR.fail _
    | some t =>
      refine hR.bind (hR.call (.get _) nofun nofun) fun current =>
        hR.bind (hR.call (.query _ _) nofun nofun) fun tabs => ?_
      exact ite (hR.bind (hR.call (.remove _) nofun fun _ => hr) fun _ => hR.pure _) (hR.pure _)
  · have rest : R
        (Activity.call (fun h : Host W T => h.query none (some true)) >>= fun left =>
          Pure.pure ⟨left.head?.map (·.id), none⟩ : Activity W T P StepResult)
        (Activity.call (fun h : Host W' T => h.query none (some true)) >>= fun left =>
          Pure.pure ⟨left.head?.map (·.id), none⟩) :=
      hR.bind (hR.call (.query _ _) nofun nofun) fun _ => hR.pure _
    exact ite (hR.bind (hR.call (.remove _) nofun fun _ => hr) fun _ => rest) rest

theorem refresh (e : Engagement) (tab : TabRef) :
    R (Step.refresh e tab : Activity W T P StepResult) (Step.refresh e tab) :=
  ite (hR.bind (hR.call (.reload tab) nofun nofun) fun _ =>
    hR.bind (hR.awaitLoad e tab) fun _ => hR.pure _) (hR.pure _)

theorem wait (e : Engagement) (params : Mapping) (tab : TabRef) :
    R (Step.wait e params tab : Activity W T P StepResult) (Step.wait e params tab) :=
  hR.bind (hR.ofExcept _) fun _ => hR.bind (hR.ofExcept _) fun d =>
    hR.bind (hR.sleep d) fun _ => hR.pure _

theorem store : R (Run.store : Run W T Store) Run.store :=
  hR.bind hR.get fun _ => hR.pure _

end Closed

/-! ## Blocks -/

namespace Composed
open Closed (ite)

variable {counting removing : Prop}
  {R : ⦃P α : Type⦄ → Activity W T P α → Activity W' T P α → Prop}

section Engaged
variable {e : Engagement} (hR : Composed counting removing e.config.elementPollMs R)
include hR

theorem awaitElement (tab : TabRef) (action : PageAction) (params : Mapping) :
    R (Dispatch.awaitElement e tab action params : Activity W T P Unit)
      (Dispatch.awaitElement e tab action params) := by
  have wait (timeoutMs : Option Int) : R
      (ElementWait.require tab (Mapping.named params "selector").display
        (timeoutMs.getD e.config.elementTimeoutMs) e.config.elementPollMs
        >>= fun _ => Pure.pure () : Activity W T P Unit)
      (ElementWait.require tab (Mapping.named params "selector").display
        (timeoutMs.getD e.config.elementTimeoutMs) e.config.elementPollMs
        >>= fun _ => Pure.pure ()) :=
    hR.bind (hR.require _ _ _) fun _ => hR.pure ()
  exact ite (ite (hR.bind (hR.ofExcept _) wait) (hR.bind (hR.pure _) wait)) (hR.pure ())

theorem dispatch (tab : TabRef) {action : PageAction} (ha : action = .count → counting)
    (params : Mapping) :
    R (Dispatch.perform e tab action params : Activity W T P StepResult)
      (Dispatch.perform e tab action params) := by
  refine ite (hR.fail _) (hR.bind (hR.awaitElement tab action params) fun _ => ?_)
  refine hR.bind (hR.query e tab ha params) fun r => ?_
  exact hR.bind (hR.ofExcept _) fun write => hR.pure _

theorem perform (kind : BlockKind) (hr : kind = .closeTab → removing) (params : Mapping)
    (tab : TabRef) :
    R (Step.perform e kind params tab : Activity W T P StepResult)
      (Step.perform e kind params tab) := by
  cases kind with
  | navigate => exact hR.navigate e params tab
  | newTab => exact hR.newTab e params
  | activateTab => exact hR.activateTab params
  | switchTab => exact hR.switchTab params tab
  | closeTab => exact hR.closeTab (hr rfl) params tab
  | pinTab | muteTab =>
    exact ite (hR.bind (hR.call (.update _ _) nofun nofun) fun _ => hR.pure _) (hR.pure _)
  | refresh => exact hR.refresh e tab
  | wait => exact hR.wait e params tab
  | setVariable => exact hR.pure _
  | getTabInfo => exact ite (hR.bind (hR.call (.get _) nofun nofun) fun _ => hR.pure _) (hR.pure _)
  | screenshot =>
    exact ite (hR.bind (hR.call (.capture _) nofun nofun) fun _ => hR.pure _) (hR.pure _)
  | condition | loop | forEach => exact hR.fail _
  | _ => exact hR.dispatch tab (by nofun) params

theorem execute (hr : removing) (store : Store) (b : Block) (tab : TabRef) :
    R (Step.execute e store b tab : Activity W T P StepResult) (Step.execute e store b tab) := by
  unfold Step.execute
  split
  · exact hR.fail _
  · exact hR.perform _ (fun _ => hr) _ tab

theorem evaluate (params : Mapping) (tab : TabRef) :
    R (Condition.evaluate e params tab : Activity W T P Verdict)
      (Condition.evaluate e params tab) := by
  have hinspect : PageAction.inspect = .count → counting := nofun
  have inspect (selector : String) :
      R (Condition.inspect e tab selector : Activity W T P ElementFacts)
        (Condition.inspect e tab selector) :=
    ite (hR.pure _) (hR.bind (hR.query e tab hinspect _) fun _ => hR.ofExcept _)
  refine ite (hR.fail _) ?_
  dsimp only
  split
  · exact hR.pure _
  · exact hR.bind (inspect _) fun _ => hR.pure _

end Engaged

section Blocks
variable {a : Assignment} (hR : Composed counting removing a.engagement.config.elementPollMs R)
include hR

theorem condition (b : Block) (tab : TabRef) :
    R (Run.condition a b tab : Run W T Unit) (Run.condition a b tab) := by
  refine hR.bind hR.store fun store => ?_
  refine hR.bind (hR.lift (hR.evaluate _ tab)) fun verdict => ite (hR.pure _) ?_
  split
  · exact hR.fail _
  · exact hR.modify _

/-- Every block is put together in these ways. -/
theorem block (hr : removing) (b : Block) (tab : TabRef) :
    R (Run.block a b tab : Run W T TabRef) (Run.block a b tab) := by
  refine ite (hR.bind (hR.condition b tab) fun _ => hR.pure _) (hR.bind hR.store fun store => ?_)
  exact hR.bind (hR.lift (hR.execute hr store b tab)) fun result =>
    hR.bind (hR.modify _) fun _ => hR.pure _

end Blocks

end Composed
end Activity

end BrowserFlow
