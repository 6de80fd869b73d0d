import BrowserFlow.Proofs.Targets
import BrowserFlow.Proofs.Timely

/-!
Pages that do not load in time. A step that goes to a page waits until it has loaded, for as long
as the configuration allows and no longer than the deadlines around it. Whichever of these passes
first decides how the step ends, and a deadline around it does so in a tie.

* `Reply.Outlasts`: a host that is not done by some moment.
* `Step.arrive?`: the part of a step before it waits for a page.
* `Step.awaitLoad_late`, `Step.awaitLoad_expired`: the two ways in which a wait is too long.
-/
namespace BrowserFlow
set_option autoImplicit false

variable {W T P α : Type}

/-- When nothing cuts it off, a reply that starts at a moment is not over before `limit`. -/
inductive Reply.Outlasts (limit : Rat) : Reply W Rat α → Rat → Prop
  | reached {r : Reply W Rat α} {now : Rat} : limit ≤ now → Outlasts limit r now
  | sleep {world : W} {requests : List Request} {duration now : Rat}
      {resume : Rat → Reply W Rat α} :
      Outlasts limit (resume (now + max 0 duration)) (now + max 0 duration) →
      Outlasts limit (.sleep world requests duration resume) now

namespace Activity

/-! ## Deadlines of nested scopes -/

/-- The deadline of an inner scope passes first when all around it are later. -/
theorem PassesFirst.inner {ds : List Rat} {t : Rat} (ht : ∀ d ∈ ds, t < d) :
    PassesFirst (ds ++ [t]) ds.length t where
  own := List.getElem?_concat_length
  first := List.forall_mem_append.2 ⟨fun d hd => (ht d hd).le, List.forall_mem_singleton.2 le_rfl⟩
  outermost j hj d hd := by
    rw [List.getElem?_append_left hj] at hd
    exact ht d (List.mem_of_getElem? hd)

/-- A deadline passes first as before when those inside of it are no earlier. -/
theorem PassesFirst.outer {ds inner : List Rat} {k : Nat} {t : Rat} (hk : PassesFirst ds k t)
    (ht : ∀ d ∈ inner, t ≤ d) : PassesFirst (ds ++ inner) k t where
  own := by
    rw [List.getElem?_append_left (List.getElem?_eq_some_iff.1 hk.own).1]
    exact hk.own
  first := List.forall_mem_append.2 ⟨hk.first, ht⟩
  outermost j hj d hd := by
    have hlt := (List.getElem?_eq_some_iff.1 hk.own).1
    rw [List.getElem?_append_left (hj.trans hlt)] at hd
    exact hk.outermost j hj d hd

/-- A reply that outlasts the first deadline is cut off at it. -/
theorem follow_of_outlasts {ds : List Rat} {k : Nat} {t : Rat} (hk : PassesFirst ds k t)
    {r : Reply W Rat α} {s : Scene W Rat} {p : P} (hnow : Before s.now ds)
    (hr : r.Outlasts t s.now) : ∃ s', follow ds p r s = (.expired k, s', p) ∧ s'.now = t := by
  generalize hs : s.now = now at hr
  -- each sleep that does not reach the deadline leaves a reply that outlasts it
  induction hr generalizing s with
  | reached hle =>
    subst hs
    exact absurd (hnow t (List.mem_of_getElem? hk.own)) (not_lt.2 hle)
  | @sleep world requests duration now resume hr ih =>
    subst hs
    rw [follow]
    obtain ⟨_, hw, rfl, hds⟩ | ⟨j, u, hw, -, -, hj⟩ := wake_cases duration hnow
    · simp only [hw]
      exact ih (s := ⟨world, s.now + max 0 duration, s.control.receiveAll requests⟩) hds rfl
    · obtain ⟨rfl, rfl⟩ := hj.unique hk
      simp only [hw]
      exact ⟨_, rfl, rfl⟩

end Activity

/-! ## Waits for a page -/

namespace Step
open Activity

/-- The page in a tab does not load before `limit` when the wait for it begins in this scene. -/
def Loading (h : Host W Rat) (tab : TabRef) (s : Scene W Rat) (limit : Rat) : Prop :=
  (h.awaitLoad tab s.now (yielded h s).world).Outlasts limit s.now

section Waits
variable {e : Engagement} {tab : TabRef} {h : Host W Rat} {ds : List Rat} {s : Scene W Rat} {p : P}
  (hnow : Before s.now ds)
include hnow

/-- A wait whose own deadline is strictly the first fails at it as a wait for a page. -/
theorem awaitLoad_late {own : Rat} (ho : own ∈ deadline? e.config.loadTimeoutSec s.now)
    (hfirst : ∀ d ∈ ds, own < d) (hpage : Loading h tab s own) :
    ∃ s', awaitLoad e tab h ds s p = (.failed (.loadTimedOut e.config.loadTimeoutSec tab), s', p) ∧
      s'.now = own := by
  have hcut : ∃ s', CutOff e.config.loadTimeoutSec
      (Activity.call fun h : Host W Rat => h.awaitLoad tab : Activity W Rat P Unit) h ds s p s' p ∧
        s'.now = own := by
    unfold CutOff
    cases hb : budget? e.config.loadTimeoutSec ds (yielded h s).now with
    | none =>
      have hown : deadline? e.config.loadTimeoutSec s.now = some s.now := budget?_eq_none hb
      rw [hown] at ho
      exact ⟨_, ⟨rfl, rfl⟩, Option.mem_some.1 ho⟩
    | some inner =>
      have hbefore : Before (yielded h s).now inner := budget?_before hb hnow
      have hown : deadline? e.config.loadTimeoutSec (yielded h s).now = some own := ho
      obtain ⟨rfl, -⟩ := budget?_eq_some hb
      rw [hown] at hbefore ⊢
      exact follow_of_outlasts (PassesFirst.inner hfirst) hbefore hpage
  obtain ⟨s', hcut, ht⟩ := hcut
  exact ⟨s', within_of_cutOff hcut _, ht⟩

/-- A wait is cut off by a deadline around it that is no later than its own. -/
theorem awaitLoad_expired {k : Nat} {d : Rat} (hk : PassesFirst ds k d)
    (hlast : ∀ own ∈ deadline? e.config.loadTimeoutSec s.now, d ≤ own) (hpage : Loading h tab s d) :
    ∃ s', awaitLoad e tab h ds s p = (.expired k, s', p) ∧ s'.now = d := by
  have hd : d ∈ ds := List.mem_of_getElem? hk.own
  have hin : k < ds.length := (List.getElem?_eq_some_iff.1 hk.own).1
  unfold awaitLoad TabLoad.await
  cases hb : budget? e.config.loadTimeoutSec ds (yielded h s).now with
  | none =>
    have hown : deadline? e.config.loadTimeoutSec s.now = some s.now := budget?_eq_none hb
    exact absurd (hnow d hd) (not_lt.2 (hlast s.now hown))
  | some inner =>
    have hbefore : Before (yielded h s).now inner := budget?_before hb hnow
    obtain ⟨hi, -⟩ := budget?_eq_some hb
    have hfirst : PassesFirst inner k d := by
      rw [hi]
      exact hk.outer fun own ho => hlast own (Option.mem_toList.1 ho)
    obtain ⟨s', hcall, ht⟩ := follow_of_outlasts (p := p) hfirst hbefore hpage
    have hrun : (Activity.call fun h : Host W Rat => h.awaitLoad tab : Activity W Rat P Unit)
        h inner
        (yielded h s) p = (.expired k, s', p) := hcall
    refine ⟨s', ?_, ht⟩
    rw [within_of_some hb, hrun, capped, if_neg hin.ne]

end Waits

/-! ## Steps that wait for a page -/

variable [Clock T]

/-- The part of a step before it waits for a page, with the tab of that page; none for a step that
waits for no page. -/
def arrive? (kind : BlockKind) (p : Mapping) (tab : TabRef) : Option (Activity W T P TabRef) :=
  match kind with
  | .navigate =>
    let url := Mapping.named p "url"
    some <|
      if !url.isTruthy then Activity.fail .noUrl
      else
        match tab with
        | some t => do
          Activity.call fun h : Host W T => h.update (some t) { url := some url.display }
          pure (some t)
        | none => do
          let t ← Activity.call fun h : Host W T => h.create url.display true
          pure (some t)
  | .newTab =>
    let url := Mapping.named p "url"
    let address := if url.isTruthy then url.display else "about:blank"
    some do
      let t ← Activity.call fun h : Host W T =>
        h.create address (Parameter.flag (Mapping.named p "active") true)
      pure (some t)
  | .refresh =>
    if tab.isSome then
      some do
        Activity.call fun h : Host W T => h.reload tab
        pure tab
    else none
  | _ => none

theorem perform_of_arrive? {kind : BlockKind} {params : Mapping} {tab : TabRef}
    {x : Activity W T P TabRef} (hx : arrive? kind params tab = some x) (e : Engagement) :
    (perform e kind params tab : Activity W T P StepResult) =
      x >>= fun t => awaitLoad e t >>= fun _ => pure ⟨t, none⟩ := by
  cases kind with
  | navigate =>
    cases hx
    show navigate e params tab = _
    unfold navigate
    dsimp only
    split
    · rfl
    · cases tab with
      | none => simp only [Activity.bind_assoc, Activity.pure_bind]
      | some t => simp only [Activity.bind_assoc, Activity.pure_bind]
  | newTab =>
    cases hx
    rw [Activity.bind_assoc]
    rfl
  | refresh =>
    rw [arrive?] at hx
    split at hx
    · rename_i ht
      cases hx
      show refresh e tab = _
      unfold refresh
      rw [if_pos ht, Activity.bind_assoc]
      rfl
    · cases hx
  | _ => cases hx

theorem arrive?_timely {kind : BlockKind} {params : Mapping} {tab : TabRef}
    {x : Activity W Rat P TabRef} (hx : arrive? kind params tab = some x) : Timely x := by
  have ask {α : Type} (f : Host W Rat → Call W Rat α) (g : α → TabRef) :
      Timely (Activity.call f >>= fun a => pure (g a) : Activity W Rat P TabRef) :=
    (Timely.call f).bind fun _ => Timely.closed.pure _
  cases kind with
  | navigate =>
    cases hx
    split
    · exact Timely.closed.fail _
    · cases tab with
      | none => exact ask _ _
      | some t => exact ask _ _
  | newTab =>
    cases hx
    exact ask _ _
  | refresh =>
    rw [arrive?] at hx
    split at hx
    · cases hx
      exact ask _ _
    · cases hx
  | _ => cases hx

end Step

/-- A block whose wait for a page gives no value ends as this wait does. -/
theorem Run.block_of_awaitLoad [Clock T] {a : Assignment} {b : Block} {tab t : TabRef}
    {kind : BlockKind} {x : Errand W T TabRef} {h : Host W T} {ds : List T} {s s₁ s₂ : Scene W T}
    {p : Progress T} {e : Halt} (hk : b.kind? = some kind)
    (hx : Step.arrive? kind (Template.interpolateAll p.store b.params) tab = some x)
    (ha : x h ds s () = (.done t, s₁, ()))
    (hw : (Step.awaitLoad a.engagement t : Errand W T Unit) h ds s₁ () = (e.outcome, s₂, ())) :
    block a b tab h ds s p = (e.outcome, s₂, p) := by
  have hne : b.kind? ≠ some .condition := by
    rw [hk]
    rintro ⟨⟩
    cases hx
  have hstep : (Step.execute a.engagement p.store b tab : Errand W T StepResult) h ds s () =
      (e.outcome, s₂, ()) := by
    rw [Step.execute, hk]
    dsimp only
    rw [Step.perform_of_arrive? hx]
    exact (Activity.bind_done ha).trans (Activity.bind_halt hw)
  rw [block, if_neg hne, step_apply]
  refine Activity.bind_halt ?_
  rw [Activity.lift_apply, hstep]

end BrowserFlow
