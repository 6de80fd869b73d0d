import BrowserFlow.Proofs.Targets

/-!
What a step does to the variables. A step that fails, or is given up at a deadline, leaves them as
they were. A step that comes to its end makes at most one write: a picture under its own name, or
under the target of its parameters the value that a variable is set to, a piece of information
about the tab, or the data of a page's answer.
-/
namespace BrowserFlow
set_option autoImplicit false

variable {W T P : Type} [Clock T]

namespace Store

theorem get?_apply_of_ne (s : Store) {w : Option (String × Value)} {other : String}
    (hw : ∀ v, w ≠ some (other, v)) : (s.apply w).get? other = s.get? other := by
  cases w with
  | none => rfl
  | some write =>
    obtain ⟨key, v⟩ := write
    have hne : other ≠ key := by
      rintro rfl
      exact hw v rfl
    exact s.get?_set_of_ne key other v hne

theorem get?_apply_self (s : Store) {w : Option (String × Value)} {key : String} {v : Value}
    (hw : w = some (key, v)) : (s.apply w).get? key = some v := by
  subst hw
  exact s.get?_set_self key v

end Store

namespace Dispatch

/-- The answer of a page to an action, once its element is there. -/
def answer (e : Engagement) (tab : TabRef) (action : PageAction) (params : Mapping) :
    Activity W T P PageResult := do
  if tab.isNone then Activity.fail (.noTabForAction action.name)
  else do
    awaitElement e tab action params
    query e tab action params

theorem perform_eq (e : Engagement) (tab : TabRef) (action : PageAction) (params : Mapping) :
    (perform e tab action params : Activity W T P StepResult) =
      answer e tab action params >>= fun r =>
        Activity.ofExcept (write? action params r) >>= fun write => pure ⟨tab, write⟩ := by
  unfold perform answer
  by_cases htab : tab.isNone = true
  · rw [if_pos htab, if_pos htab]
    rfl
  · rw [if_neg htab, if_neg htab, Activity.bind_assoc]

end Dispatch

namespace Step

/-- The write of a step of some kind between two scenes. -/
inductive Leaves (e : Engagement) (kind : BlockKind) (params : Mapping) (tab : TabRef)
    (h : Host W T) (ds : List T) (s s' : Scene W T) : Option (String × Value) → Prop where
  | picture {v : Value} (hk : kind = .screenshot) (htab : tab.isSome = true)
    (hv : (Activity.call fun h : Host W T => h.capture tab : Errand W T Value) h ds s () =
      (.done v, s', ())) :
    Leaves e kind params tab h ds s s' (some ("_screenshot", v))
  | variable (hk : kind = .setVariable) :
    Leaves e kind params tab h ds s s'
      (Variables.write? (.text (Variables.targetName (Mapping.named params "variable")))
        (Mapping.named params "value"))
  | tabInfo {t : Tab} (hk : kind = .getTabInfo) (htab : tab.isSome = true)
    (ht : (Activity.call fun h : Host W T => h.get tab : Errand W T Tab) h ds s () =
      (.done t, s', ())) :
    Leaves e kind params tab h ds s s'
      (Variables.write? (Mapping.named params "variable") (DataKind.infoOf params t))
  | data {action : PageAction} {r : PageResult} {v : Value} (hk : kind.action? = some action)
    (hr : (Dispatch.answer e tab action params : Errand W T PageResult) h ds s () =
      (.done r, s', ())) (hd : r.hasData = true) (hv : Dispatch.kept action r.data = .ok v)
    (htarget : (Mapping.named params "variable").isTruthy = true) :
    Leaves e kind params tab h ds s s' (Variables.write? (Mapping.named params "variable") v)
  | noData {action : PageAction} {r : PageResult} (hk : kind.action? = some action)
    (hr : (Dispatch.answer e tab action params : Errand W T PageResult) h ds s () =
      (.done r, s', ()))
    (hd : r.hasData = false ∨ (Mapping.named params "variable").isTruthy = false) :
    Leaves e kind params tab h ds s s' none
  | noTab (hk : kind = .screenshot ∨ kind = .getTabInfo) (htab : tab = none) :
    Leaves e kind params tab h ds s s' none
  | other (hk : kind.action? = none) (hpicture : kind ≠ .screenshot)
    (hvariable : kind ≠ .setVariable) (hinfo : kind ≠ .getTabInfo) :
    Leaves e kind params tab h ds s s' none

/-! ## Steps that write nothing -/

/-- No write, however the step ends. -/
abbrev Writeless (x : Activity W T P StepResult) : Prop := Activity.Gives (·.write = none) x

theorem navigate_writeless (e : Engagement) (params : Mapping) (tab : TabRef) :
    Writeless (navigate e params tab : Activity W T P StepResult) := by
  refine .ite (.fail _) ?_
  have arrived (t : TabRef) : Writeless (awaitLoad e t >>= fun _ => pure ⟨t, none⟩ :
      Activity W T P StepResult) := .bind fun _ => .pure rfl
  cases tab with
  | none => exact .bind fun t => arrived t
  | some t => exact .bind fun _ => arrived t

theorem activateTab_writeless (params : Mapping) :
    Writeless (activateTab params : Activity W T P StepResult) := by
  refine .bind fun tabs => ?_
  split
  · exact .bind fun _ => .pure rfl
  · exact .fail _

theorem switchTab_writeless (params : Mapping) (tab : TabRef) :
    Writeless (switchTab params tab : Activity W T P StepResult) := by
  unfold switchTab
  cases tab with
  | none => exact .fail _
  | some t =>
    refine .bind fun current => .bind fun found => ?_
    dsimp only
    split
    · exact .bind fun _ => .pure rfl
    · exact .pure rfl

theorem closeTab_writeless (params : Mapping) (tab : TabRef) :
    Writeless (closeTab params tab : Activity W T P StepResult) := by
  refine .ite ?_ ?_
  · cases tab with
    | none => exact .fail _
    | some t =>
      exact .bind fun current => .bind fun tabs => .ite (.bind fun _ => .pure rfl) (.pure rfl)
  · exact .ite (.bind fun _ => .bind fun left => .pure rfl) (.bind fun left => .pure rfl)

theorem perform_writeless (e : Engagement) {kind : BlockKind} (params : Mapping) (tab : TabRef)
    (hk : kind.action? = none) (hpicture : kind ≠ .screenshot) (hvariable : kind ≠ .setVariable)
    (hinfo : kind ≠ .getTabInfo) :
    Writeless (perform e kind params tab : Activity W T P StepResult) := by
  cases kind with
  | navigate => exact navigate_writeless e params tab
  | newTab => exact .bind fun t => .bind fun _ => .pure rfl
  | activateTab => exact activateTab_writeless params
  | switchTab => exact switchTab_writeless params tab
  | closeTab => exact closeTab_writeless params tab
  | pinTab | muteTab => exact .ite (.bind fun _ => .pure rfl) (.pure rfl)
  | refresh => exact .ite (.bind fun _ => .bind fun _ => .pure rfl) (.pure rfl)
  | wait => exact .bind fun millis => .bind fun d => .bind fun _ => .pure rfl
  | condition | loop | forEach => exact .fail _
  | setVariable => exact absurd rfl hvariable
  | getTabInfo => exact absurd rfl hinfo
  | screenshot => exact absurd rfl hpicture
  | _ => cases hk

/-! ## Steps that may write -/

section Writes
variable {e : Engagement} {kind : BlockKind} {params : Mapping} {tab : TabRef} {h : Host W T}
  {ds : List T} {s s' : Scene W T} {r : StepResult}

theorem screenshot_leaves
    (hr : (screenshot tab : Errand W T StepResult) h ds s () = (.done r, s', ())) :
    Leaves e .screenshot params tab h ds s s' r.write := by
  unfold screenshot at hr
  by_cases htab : tab.isSome = true
  · rw [if_pos htab, Activity.bind_eq_done] at hr
    obtain ⟨v, s₁, ⟨⟩, hv, hr⟩ := hr
    cases hr
    exact .picture rfl htab hv
  · rw [if_neg htab] at hr
    cases hr
    exact .noTab (.inl rfl) (by simpa using htab)

theorem getTabInfo_leaves
    (hr : (getTabInfo params tab : Errand W T StepResult) h ds s () = (.done r, s', ())) :
    Leaves e .getTabInfo params tab h ds s s' r.write := by
  unfold getTabInfo at hr
  by_cases htab : tab.isSome = true
  · rw [if_pos htab, Activity.bind_eq_done] at hr
    obtain ⟨t, s₁, ⟨⟩, ht, hr⟩ := hr
    cases hr
    exact .tabInfo rfl htab ht
  · rw [if_neg htab] at hr
    cases hr
    exact .noTab (.inr rfl) (by simpa using htab)

theorem dispatch_leaves {action : PageAction} (hk : kind.action? = some action)
    (hr : (Dispatch.perform e tab action params : Errand W T StepResult) h ds s () =
      (.done r, s', ())) : Leaves e kind params tab h ds s s' r.write := by
  rw [Dispatch.perform_eq, Activity.bind_eq_done] at hr
  obtain ⟨answer, s₁, ⟨⟩, hanswer, hr⟩ := hr
  cases hw : Dispatch.write? action params answer with
  | error f =>
    rw [hw] at hr
    cases hr
  | ok write =>
    rw [hw] at hr
    cases hr
    unfold Dispatch.write? at hw
    by_cases hd : answer.hasData = true
    · rw [if_pos hd] at hw
      cases hv : Dispatch.kept action answer.data with
      | error f =>
        rw [hv] at hw
        cases hw
      | ok v =>
        rw [hv] at hw
        by_cases ht : (Mapping.named params "variable").isTruthy = true
        · have hwrite : write = Variables.write? (Mapping.named params "variable") v := by
            rw [← Except.ok.inj hw]
            exact if_pos ht
          rw [hwrite]
          exact .data hk hanswer hd hv ht
        · have hwrite : write = none := by
            rw [← Except.ok.inj hw]
            exact if_neg ht
          rw [hwrite]
          exact .noData hk hanswer (.inr (by simpa using ht))
    · rw [if_neg hd] at hw
      cases hw
      exact .noData hk hanswer (.inl (by simpa using hd))

/-- What a step that came to its end has written. -/
theorem perform_leaves
    (hr : (perform e kind params tab : Errand W T StepResult) h ds s () = (.done r, s', ())) :
    Leaves e kind params tab h ds s s' r.write := by
  cases hk : kind.action? with
  | some action =>
    refine dispatch_leaves hk ?_
    cases kind <;> cases hk <;> exact hr
  | none =>
    by_cases hpicture : kind = .screenshot
    · subst hpicture
      exact screenshot_leaves hr
    by_cases hvariable : kind = .setVariable
    · subst hvariable
      cases hr
      exact .variable rfl
    by_cases hinfo : kind = .getTabInfo
    · subst hinfo
      exact getTabInfo_leaves hr
    have hwrite := perform_writeless e params tab hk hpicture hvariable hinfo h ds s s' () () r hr
    rw [hwrite]
    exact .other hk hpicture hvariable hinfo

end Writes
end Step

namespace Run

variable {a : Assignment} {b : Block} {tab : TabRef} {h : Host W T} {ds : List T} {s s' : Scene W T}
  {p p' : Progress T}

theorem step_eq_done {tab' : TabRef} (hr : step a b tab h ds s p = (.done tab', s', p')) :
    ∃ r : StepResult, (Step.execute a.engagement p.store b tab : Errand W T StepResult) h ds s () =
      (.done r, s', ()) ∧ tab' = r.tab ∧ p' = { p with store := p.store.apply r.write } := by
  rw [step_apply, Activity.bind_eq_done] at hr
  obtain ⟨r, s₁, p₁, hx, hw⟩ := hr
  obtain ⟨hx, rfl⟩ := Activity.lift_eq_done.1 hx
  cases hw
  exact ⟨r, hx, rfl, rfl⟩

/-- The write comes after all that can fail or be given up. -/
theorem step_unchanged (hr : ∀ tab', (step a b tab h ds s p).1 ≠ .done tab') :
    (step a b tab h ds s p).2.2 = p := by
  rw [step_apply] at hr ⊢
  obtain ⟨r, s₁, p₁, hx⟩ | ⟨e, s₁, p₁, hx⟩ :=
    Activity.ends ((Step.execute a.engagement p.store b tab).lift : Run W T StepResult) h ds s p
  · rw [Activity.bind_done hx] at hr
    exact absurd rfl (hr r.tab)
  · rw [Activity.bind_halt hx]
    have hsame := congrArg (·.2.2) hx
    exact hsame.symm

/-- The same within a scope with a budget, whose end is that of the step or a timeout. -/
theorem within_step_unchanged (seconds : Float) (late : Fault)
    (hr : ∀ tab', (Activity.within seconds late (step a b tab) h ds s p).1 ≠ .done tab') :
    (Activity.within seconds late (step a b tab) h ds s p).2.2 = p := by
  cases hb : Activity.budget? seconds ds (Activity.yielded h s).now with
  | none => rw [Activity.within_of_none hb]
  | some inner =>
    rw [Activity.within_of_some hb] at hr ⊢
    refine step_unchanged fun tab' htab => hr tab' ?_
    exact Activity.capped_eq_done.2 htab

/-- A step that does not come to its end, be it in a scope with a budget, leaves everything of the
run as it was. One that does makes the write of its kind, which touches one variable at most. -/
theorem step_writes (a : Assignment) (b : Block) (tab : TabRef) (h : Host W T) (ds : List T)
    (s : Scene W T) (p : Progress T) :
    ((∀ tab', (step a b tab h ds s p).1 ≠ .done tab') → (step a b tab h ds s p).2.2 = p) ∧
    (∀ seconds late,
      (∀ tab', (Activity.within seconds late (step a b tab) h ds s p).1 ≠ .done tab') →
      (Activity.within seconds late (step a b tab) h ds s p).2.2 = p) ∧
    (∀ tab' s' p', step a b tab h ds s p = (.done tab', s', p') → ∃ kind w, b.kind? = some kind ∧
      Step.Leaves a.engagement kind (Template.interpolateAll p.store b.params) tab h ds s s' w ∧
      p' = { p with store := p.store.apply w } ∧
      (∀ other, (∀ v, w ≠ some (other, v)) → p'.store.get? other = p.store.get? other) ∧
      ∀ key v, w = some (key, v) → p'.store.get? key = some v) := by
  refine ⟨step_unchanged, within_step_unchanged, fun tab' s' p' hr => ?_⟩
  obtain ⟨r, hx, -, rfl⟩ := step_eq_done hr
  unfold Step.execute at hx
  cases hk : b.kind? with
  | none =>
    rw [hk] at hx
    cases hx
  | some kind =>
    rw [hk] at hx
    refine ⟨kind, r.write, rfl, Step.perform_leaves hx, rfl, ?_, ?_⟩
    · intro other hw
      exact p.store.get?_apply_of_ne hw
    · intro key v hw
      exact p.store.get?_apply_self hw

end Run
end BrowserFlow
