import BrowserFlow.Proofs.Composition

/-!
Who counts. A host may be given another answer to how many items a page has; an activity that does
the same whatever that answer is has not asked for it. No block of a body asks: only a for-each
counts, before its first pass.
-/
namespace BrowserFlow
set_option autoImplicit false

variable {W T P α β : Type}

/-- The same host with another answer to how many items a page has. -/
def Host.recounting (h : Host W T) (count : TabRef → Mapping → Call W T (Option PageResult)) :
    Host W T :=
  { h with
    perform := fun tab action params =>
      if action = .count then count tab params else h.perform tab action params }

namespace Activity

/-- An activity that never asks a page to count. -/
def Uncounting (x : Activity W T P α) : Prop :=
  ∀ (h : Host W T) count, x (h.recounting count) = x h

namespace Uncounting

theorem bind {x : Activity W T P α} {f : α → Activity W T P β} (hx : Uncounting x)
    (hf : ∀ a, Uncounting (f a)) : Uncounting (x >>= f) := by
  intro h count
  funext ds s p
  have hsame : x (h.recounting count) ds s p = x h ds s p := by rw [hx]
  obtain ⟨a, s', p', hr⟩ | ⟨e, s', p', hr⟩ := ends x h ds s p
  · rw [bind_done hr, bind_done (hsame.trans hr), hf]
  · rw [bind_halt hr, bind_halt (hsame.trans hr)]

theorem attempt {x : Activity W T P α} (hx : Uncounting x) : Uncounting x.attempt := by
  intro h count
  funext ds s p
  rw [Activity.attempt, Activity.attempt, hx]

theorem lift {x : Errand W T α} (hx : Uncounting x) :
    Uncounting (x.lift : Activity W T P α) := by
  intro h count
  funext ds s p
  rw [lift_apply, lift_apply, hx]

variable [Clock T]

theorem call {q : Host.Question α} (hq : ¬ q.Counts) :
    Uncounting (Activity.call q.ask : Activity W T P α) := by
  intro h count
  have hsame : q.ask (h.recounting count) = q.ask h := by
    cases q with
    | perform tab action params =>
      have ha : action ≠ .count := hq
      funext t w
      exact congrArg (fun c : Call W T (Option PageResult) => c t w) (if_neg ha)
    | _ => rfl
  funext ds s p
  rw [Activity.call, Activity.call, hsame]

theorem within {x : Activity W T P α} (hx : Uncounting x) (seconds : Float) (late : Fault) :
    Uncounting (Activity.within seconds late x) := by
  intro h count
  funext ds s p
  have hyield : yielded (h.recounting count) s = yielded h s := rfl
  rw [within_apply, within_apply, hyield, scope, scope]
  simp only [hx h count]

end Uncounting
end Activity

variable [Clock T]

theorem Activity.Uncounting.composed (pollMs : Int) :
    Composed False True pollMs fun P α (x _ : Activity W T P α) => Uncounting x :=
  Closed.composed {
    pure := fun _ _ _ => rfl
    fail := fun _ _ _ => rfl
    get := fun _ _ => rfl
    modify := fun _ _ _ => rfl
    now := fun _ _ => rfl
    sleep := fun _ _ _ => rfl
    call := fun _ hq _ => .call hq
    bind := .bind
    attempt := .attempt
    lift := .lift
    within := fun seconds late hx => .within hx seconds late } (fun _ _ => rfl) pollMs

/-- No block that a pass runs asks a page to count. -/
theorem Run.block_uncounting (a : Assignment) (b : Block) (tab : TabRef) :
    Activity.Uncounting (block a b tab : Run W T TabRef) :=
  (Activity.Uncounting.composed _).block trivial b tab

end BrowserFlow
