import BrowserFlow.Proofs.Exclusion

/-!
A record of page calls. A host may write down each action that a page is asked for, with what came
of it; nothing else about it changes, so what the record says of a run over that host holds of the
run over the host itself.

* `PageCall`: a call of a page, with its answer.
* `Host.logging`: the host that keeps the record, and `logging_simulation`: it is the same host.
* `Activity.Makes`: an activity makes these page calls.
* `Makes.of_uniform`: what is shown over the host that keeps the record holds over every host.
-/
namespace BrowserFlow
set_option autoImplicit false

variable {W T P α β : Type}

/-! ## Calls and their record -/

structure PageCall where
  tab : TabRef
  action : PageAction
  params : Mapping
  /-- What came of the call; nothing while it is under way, and for good when it was given up. -/
  answer : Option (Except Fault (Option PageResult)) := none

namespace PageCall

structure Asks (c : PageCall) (tab : TabRef) (action : PageAction) (params : Mapping) : Prop where
  tab : c.tab = tab
  action : c.action = action
  params : c.params = params

/-- What the call says about whether an element exists: a page that could not be reached says that
it does not. Other faults, and calls that were given up, say nothing. -/
def verdict? (c : PageCall) : Option Bool :=
  match c.answer with
  | some (.ok (some r)) => some (r.success && r.data.isTruthy)
  | some (.ok none) => some false
  | some (.error f) => if f.isA .transient then some false else none
  | none => none

def Returns (c : PageCall) (r : PageResult) : Prop := c.answer = some (.ok (some r))

/-- How the call failed; no answer at all is a fault as well. -/
def fault? (c : PageCall) : Option Fault :=
  match c.answer with
  | some (.ok none) => some (.noAnswer c.action.name)
  | some (.error f) => some f
  | _ => none

/-- The page could not be reached, or gave no answer. -/
def Lost (c : PageCall) : Prop :=
  c.answer = some (.ok none) ∨ ∃ f, c.answer = some (.error f) ∧ f.isA .transient = true

theorem lost_of_fault {c : PageCall} {f : Fault} (hc : c.fault? = some f)
    (hf : f.isA .transient = true) : c.Lost := by
  unfold fault? at hc
  split at hc
  · exact .inl ‹_›
  · cases hc
    exact .inr ⟨f, ‹_›, hf⟩
  · cases hc

theorem fault?_of_returns {c : PageCall} {r : PageResult} (hc : c.Returns r) : c.fault? = none := by
  unfold fault?
  rw [hc]

end PageCall

/-- The reply of a host whose world has something beside it that the reply does not touch. -/
def Reply.beside {L : Type} (l : L) : Reply W T α → Reply (W × L) T α
  | .done w rs result => .done (w, l) rs result
  | .sleep w rs d k => .sleep (w, l) rs d fun t => (k t).beside l

/-- The reply of a page, written down behind the calls before it. -/
def Reply.logged (log : List PageCall) (c : PageCall) :
    Reply W T (Option PageResult) → Reply (W × List PageCall) T (Option PageResult)
  | .done w rs result => .done (w, log ++ [{ c with answer := some result }]) rs result
  | .sleep w rs d k => .sleep (w, log ++ [c]) rs d fun t => (k t).logged log c

def Host.logging (h : Host W T) : Host (W × List PageCall) T :=
  { h.rewire (fun call t w => (call t w.1).beside w.2)
      fun t w => (((h.arrivals t w.1).1, w.2), (h.arrivals t w.1).2) with
    perform := fun tab action params t w =>
      (h.perform tab action params t w.1).logged w.2 { tab, action, params } }

/-! ## The record changes nothing -/

/-- The worlds are the same but for the record. -/
def Link.logging : Link W (W × List PageCall) := fun w c w' c' => w'.1 = w ∧ c' = c

namespace Reply

theorem related_beside (r : Reply W T α) (l : List PageCall) (c : Control) :
    Related Link.logging c r c (r.beside l) := by
  induction r generalizing c with
  | done w rs result => exact .done ⟨rfl, rfl⟩
  | sleep w rs d k ih => exact .sleep ⟨rfl, rfl⟩ fun t => ih t _

theorem related_logged (r : Reply W T (Option PageResult)) (log : List PageCall) (call : PageCall)
    (c : Control) : Related Link.logging c r c (r.logged log call) := by
  induction r generalizing c with
  | done w rs result => exact .done ⟨rfl, rfl⟩
  | sleep w rs d k ih => exact .sleep ⟨rfl, rfl⟩ fun t => ih t _

end Reply

theorem Host.logging_simulation (h : Host W T) : h.Simulation h.logging Link.logging where
  asked q t := by
    rintro w c ⟨_, log⟩ _ ⟨rfl, rfl⟩
    cases q with
    | perform tab action params => exact Reply.related_logged _ _ _ _
    | _ => exact Reply.related_beside _ _ _
  arrivals t := by
    rintro w c ⟨_, log⟩ _ ⟨rfl, rfl⟩
    exact ⟨rfl, rfl⟩
  stopped := by
    rintro w c _ _ ⟨-, rfl⟩
    rfl
  stop := by
    rintro w c _ _ ⟨hw, rfl⟩
    exact ⟨hw, rfl⟩

/-! ## What is written down -/

/-- The calls that are written down between two scenes. -/
def Scene.Logs (s s' : Scene (W × List PageCall) T) (cs : List PageCall) : Prop :=
  s'.world.2 = s.world.2 ++ cs

namespace Scene.Logs

variable {s s₁ s₂ : Scene (W × List PageCall) T} {cs cs' : List PageCall}

theorem refl (s : Scene (W × List PageCall) T) : s.Logs s [] := (List.append_nil _).symm

theorem trans (h₁ : s.Logs s₁ cs) (h₂ : s₁.Logs s₂ cs') : s.Logs s₂ (cs ++ cs') := by
  unfold Logs at *
  rw [h₂, h₁, List.append_assoc]

end Scene.Logs

/-- What is known of an activity that ended in this way, as the answer to a call. -/
def Outcome.answer? : Outcome α → Option (Except Fault α)
  | .done a => some (.ok a)
  | .failed f => some (.error f)
  | _ => none

namespace Activity

variable [Clock T] {h : Host W T} {ds : List T} {s s' : Scene (W × List PageCall) T} {p p' : P}

theorem follow_logged (r : Reply W T (Option PageResult)) (log : List PageCall) (c : PageCall)
    (hc : c.answer = none) (ds : List T) (s : Scene (W × List PageCall) T) (p : P) :
    (follow ds p (r.logged log c) s).2.1.world.2 =
      log ++ [{ c with answer := (follow ds p (r.logged log c) s).1.answer? }] := by
  induction r generalizing s with
  | done w rs result => cases result <;> rfl
  | sleep w rs d k ih =>
    simp only [Reply.logged, follow]
    cases wake ds s.now d with
    | ok t => exact ih t _
    | error e =>
      show log ++ [c] = log ++ [{ c with answer := none }]
      rw [← hc]

/-- A call of a page is written down with what came of it. -/
theorem call_logs {tab : TabRef} {action : PageAction} {params : Mapping}
    {o : Outcome (Option PageResult)}
    (hx : Activity.call (fun h : Host (W × List PageCall) T => h.perform tab action params)
      h.logging ds s p = (o, s', p')) :
    ∃ c : PageCall, s.Logs s' [c] ∧ c.Asks tab action params ∧ c.answer = o.answer? := by
  have hlog := follow_logged (h.perform tab action params s.now s.world.1) s.world.2
    { tab, action, params } rfl ds s p
  have hfollow : follow ds p ((h.perform tab action params s.now s.world.1).logged s.world.2
      { tab, action, params }) s = (o, s', p') := hx
  rw [hfollow] at hlog
  exact ⟨_, hlog, ⟨rfl, rfl, rfl⟩, rfl⟩

theorem sleep_logs {d : T} {o : Outcome Unit}
    (hx : Activity.sleep d h.logging ds s p = (o, s', p')) :
    s.Logs s' [] ∧ (o = .done () ∨ ∃ k, o = .expired k) := by
  rw [sleep_apply] at hx
  cases hw : wake ds s.now d with
  | ok t =>
    rw [hw] at hx
    cases hx
    exact ⟨.refl s, .inl rfl⟩
  | error e =>
    rw [hw] at hx
    cases hx
    exact ⟨.refl s, .inr ⟨_, rfl⟩⟩

end Activity

/-! ## Calls of an activity -/

/-- A scene with a record of calls beside its world. -/
def Scene.noting (s : Scene W T) (log : List PageCall) : Scene (W × List PageCall) T :=
  ⟨(s.world, log), s.now, s.control⟩

namespace Activity

/-- An activity makes these page calls: they are in the record of the host that keeps one, where it
ends as it does anyway. -/
def Makes (x : (W : Type) → Activity W T P α) (h : Host W T) (ds : List T) (s : Scene W T) (p : P)
    (cs : List PageCall) : Prop :=
  x (W × List PageCall) h.logging ds (s.noting []) p =
    ((x W h ds s p).1, (x W h ds s p).2.1.noting cs, (x W h ds s p).2.2)

variable [Clock T] {h : Host W T} {ds : List T} {s : Scene W T} {p : P}

/-- What is shown of an activity over the host that keeps a record holds of it over the host itself,
when it reads the same over both. -/
theorem Makes.of_uniform {l : Prop} {x : (W : Type) → Activity W T P α} (hx : Uniform l x)
    {Q : List PageCall → Outcome α → T → Prop}
    (hQ : ∀ o s' p', x (W × List PageCall) h.logging ds (s.noting []) p = (o, s', p') →
      ∃ cs, (s.noting []).Logs s' cs ∧ Q cs o s'.now) :
    ∃ cs, Makes x h ds s p cs ∧ Q cs (x W h ds s p).1 (x W h ds s p).2.1.now := by
  have hagree : Agree Link.logging (x W h ds s p) (x _ h.logging ds (s.noting []) p) :=
    (hx W _).simulated h.logging_simulation ⟨rfl, rfl, rfl⟩
  obtain ⟨o, ⟨w, t, c⟩, ⟨⟨w', log⟩, t', c'⟩, p₁, hr, hr', hnow, hw, hc⟩ := hagree.split
  dsimp only at hnow hw hc
  subst hnow hw hc
  obtain ⟨cs, hlogs, hQ⟩ := hQ _ _ _ hr'
  obtain rfl : log = cs := hlogs
  refine ⟨log, ?_, ?_⟩
  · rw [Makes, hr, hr']
    rfl
  · rw [hr]
    exact hQ

end Activity

end BrowserFlow
