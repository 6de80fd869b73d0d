import BrowserFlow.Proofs.Levels

/-!
How runs are put together. A run is made of blocks, of reports, and of looks at whether a stop was
asked for. What is kept by these too, besides the ways in which blocks are put together, holds of
every repeater, of every top-level unit and of every run.
-/
namespace BrowserFlow.Activity
set_option autoImplicit false

variable {W W' T : Type} [Clock T]

/-- A relation that is kept by activities which listen for stops, or ask for one. -/
structure Attentive (pollMs : Int)
    (R : ⦃P α : Type⦄ → Activity W T P α → Activity W' T P α → Prop) : Prop
    extends Composed True True pollMs R where
  stopped : ∀ {P : Type}, R (Activity.stopped : Activity W T P Bool) Activity.stopped
  stop : ∀ {P : Type}, R (Activity.request .stop : Activity W T P Unit) (Activity.request .stop)
  ensuring : ∀ {P α : Type} {x : Activity W T P α} {x' : Activity W' T P α} (f : P → P), R x x' →
    R (x.ensuring f) (x'.ensuring f)

namespace Attentive
open Closed (ite)

variable {R : ⦃P α : Type⦄ → Activity W T P α → Activity W' T P α → Prop} {a : Assignment}

section Reports
variable {pollMs : Int} (hR : Attentive pollMs R)
include hR

theorem emit (a : Assignment) (state : RunState) (message : String) (error icon : Option String) :
    R (Run.emit a state message error icon : Run W T RunStatus)
      (Run.emit a state message error icon) := by
  refine hR.bind hR.get fun p => hR.bind hR.now fun t => hR.bind (hR.modify _) fun _ => ?_
  cases a.sink with
  | none => exact hR.pure _
  | some sink => exact ite (hR.bind hR.stop fun _ => hR.pure _) (hR.pure _)

theorem announce (a : Assignment) (message : String) (icon : Option String) :
    R (Run.announce a message icon : Run W T Unit) (Run.announce a message icon) :=
  hR.bind (hR.emit a _ message none icon) fun _ => hR.pure ()

end Reports

variable (hR : Attentive a.engagement.config.elementPollMs R)
include hR

theorem blocks (f : Block → Block) (bs : List Block) (tab : TabRef) :
    R (Repeater.blocks a f bs tab : Run W T TabRef) (Repeater.blocks a f bs tab) := by
  induction bs generalizing tab with
  | nil => exact hR.pure tab
  | cons b rest ih =>
    refine hR.bind hR.stopped fun stopped => ite (hR.pure _) (ite (ih tab) ?_)
    refine hR.bind hR.get fun p => ite (hR.bind (hR.modify _) fun _ => ih tab) ?_
    exact hR.bind (hR.block trivial (f b) tab) ih

theorem passes (ρ : Repeater.Rounds) (body : List Block) (done left : Nat) (tab : TabRef) :
    R (Repeater.passes a (ρ.plan a) body done left tab : Run W T (TabRef × Nat))
      (Repeater.passes a (ρ.plan a) body done left tab) := by
  have start (n : Nat) : R ((ρ.plan a).start n : Run W T Unit) ((ρ.plan a).start n) :=
    hR.bind (hR.modify _) fun _ => hR.announce a _ _
  have pass (n : Nat) (tab : TabRef) :
      R (Repeater.pass a (ρ.transform n) body tab : Run W T TabRef)
        (Repeater.pass a (ρ.transform n) body tab) :=
    hR.ensuring _ (hR.blocks _ body tab)
  induction left generalizing done tab with
  | zero => exact hR.pure _
  | succ left ih =>
    refine hR.bind hR.stopped fun stopped => ite (hR.pure _) ?_
    refine hR.bind (start _) fun _ => hR.bind (pass _ tab) fun tab => ?_
    exact hR.bind hR.stopped fun stopped => ite (hR.pure _) (ih _ tab)

theorem setupRun (u : Repeater.Setup) (tab : TabRef) :
    R (u.run a tab : Run W T RepeaterResult) (u.run a tab) :=
  hR.bind (hR.passes u.rounds _ 0 u.count tab) fun _ => hR.pure _

theorem unlimited (index : Nat) (b : Block) (tab : TabRef) :
    R (Run.unlimited a index b tab : Run W T (Nat × TabRef)) (Run.unlimited a index b tab) := by
  unfold Run.unlimited Repeater.setup?
  cases b.kind? with
  | none => exact hR.bind (hR.block trivial b tab) fun _ => hR.pure _
  | some k =>
    cases k with
    | loop =>
      exact hR.bind (hR.bind (hR.loopSetup index) fun u => hR.setupRun u tab) fun _ => hR.pure _
    | forEach =>
      have prep := hR.forEachSetup trivial index tab
      exact hR.bind (hR.bind prep fun u => hR.setupRun u tab) fun _ => hR.pure _
    | _ => exact hR.bind (hR.block trivial b tab) fun _ => hR.pure _

theorem unit (index : Nat) (b : Block) (tab : TabRef) :
    R (Run.unit a index b tab : Run W T (Nat × TabRef)) (Run.unit a index b tab) := by
  rw [Run.unit_eq_within, Run.unit_eq_within]
  exact hR.within _ _ (hR.unlimited index b tab)

theorem scanFrom (fuel index : Nat) (tab : TabRef) :
    R (Run.scanFrom a fuel index tab : Run W T TabRef) (Run.scanFrom a fuel index tab) := by
  induction fuel generalizing index tab with
  | zero => exact hR.pure tab
  | succ fuel ih =>
    unfold Run.scanFrom
    split
    · exact hR.pure tab
    · refine hR.bind hR.stopped fun stopped => ite (hR.pure _) (ite (ih _ tab) ?_)
      refine hR.bind (hR.modify _) fun _ => hR.bind hR.get fun p => ite ?_ ?_
      · exact hR.bind (hR.modify _) fun _ => ih _ tab
      · exact hR.bind (hR.announce a _ _) fun _ =>
          hR.bind (hR.unit index _ tab) fun r => ih r.1 r.2

/-- Every run is put together in these ways. -/
theorem flow (tab : TabRef) : R (Run.flow a tab : Run W T RunStatus) (Run.flow a tab) := by
  refine hR.bind (hR.announce a _ _) fun _ => hR.bind (hR.attempt (hR.scanFrom _ 0 tab)) fun r => ?_
  cases r with
  | ok _ => exact hR.bind (hR.modify _) fun _ => hR.emit a _ _ _ _
  | error f => exact hR.emit a _ _ _ _

end Attentive
end BrowserFlow.Activity
