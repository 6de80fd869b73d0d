import BrowserFlow.Proofs.Dispatching

/-!
Which answers let a step pass. The last answer decides, and it decides by its problem alone: an
answer that tells of a problem is a fault, and any other one passes, also when it says that the
action did not run.

* `Dispatch.Passed`: the last call was answered without a problem.
* `Dispatch.answers_pass`: so it is after every question, step, check and count that comes to its
  end.
* `Dispatch.not_only_successful`: an action that did not run may pass.
-/
namespace BrowserFlow
set_option autoImplicit false

open Activity PageCall

variable {W T P α : Type}

namespace Dispatch

def Passed (tab : TabRef) (action : PageAction) (params : Mapping) (cs : List PageCall) : Prop :=
  ∃ before last r, cs = before ++ [last] ∧ PageCall.Asks last tab action params ∧ last.Returns r ∧
    r.error.isTruthy = false

theorem settle_eq_done {r r' : PageResult} :
    settle r = .done r' ↔ r = r' ∧ r.error.isTruthy = false := by
  unfold settle
  cases hr : r.error.isTruthy <;> simp

section Tried
variable {e : RetryPolicy} {tab : TabRef} {action : PageAction} {params : Mapping}
  {again : PageCall → Prop} {left : Nat} {earlier : List PageCall} {last : PageCall}
  {r : PageResult}

theorem Tried.returns
    (ht : Tried e tab action params again left settle earlier last (.done r)) :
    last.Returns r ∧ r.error.isTruthy = false := by
  by_cases hreturns : ∃ result, last.Returns result
  · obtain ⟨result, hresult⟩ := hreturns
    obtain ⟨rfl, herror⟩ := settle_eq_done.1 (ht.answered result hresult).symm
    exact ⟨hresult, herror⟩
  · obtain ⟨halt, hhalt⟩ := ht.unanswered (not_exists.1 hreturns)
    exact absurd hhalt (halt.done_ne_outcome r)

theorem Tried.passed
    (ht : Tried e tab action params again left settle earlier last (.done r)) :
    Passed tab action params (earlier ++ [last]) := by
  obtain ⟨hreturns, herror⟩ := ht.returns
  exact ⟨earlier, last, r, rfl, ht.asks last (by simp), hreturns, herror⟩

end Tried

theorem Passed.append {tab : TabRef} {action : PageAction} {params : Mapping} {cs : List PageCall}
    (hc : Passed tab action params cs) (before : List PageCall) :
    Passed tab action params (before ++ cs) := by
  obtain ⟨earlier, last, r, rfl, hlast⟩ := hc
  exact ⟨before ++ earlier, last, r, (List.append_assoc ..).symm, hlast⟩

variable [Clock T] {h : Host W T} {ds : List T} {s s' : Scene (W × List PageCall) T} {p p' : P}

/-- What is made of an answer at once adds no call to those of the question. -/
theorem query_then_tried {e : Engagement} {tab : TabRef} {action : PageAction} {params : Mapping}
    {f : PageResult → Activity (W × List PageCall) T P α}
    (hf : ∀ r ds s p, (f r h.logging ds s p).2.1 = s) {o : Outcome α}
    (hx : (query e tab action params >>= f) h.logging ds s p = (o, s', p')) :
    ∃ earlier last oq, s.Logs s' (earlier ++ [last]) ∧
      Tried e.retry tab action params e.retry.Repeats e.retry.maxRetries.toNat settle earlier last
        oq ∧
      ((∃ a, o = .done a) → ∃ r, oq = .done r) := by
  rcases hquery : (query e tab action params : Activity (W × List PageCall) T P PageResult)
    h.logging ds s p with ⟨oq, s₁, p₁⟩
  obtain ⟨earlier, last, hlogs, htried⟩ := query_logs hquery
  obtain ⟨r, rfl⟩ | ⟨halt, rfl⟩ := oq.done_or_halt
  · rw [bind_done hquery] at hx
    have hsame := hf r ds s₁ p₁
    rw [hx] at hsame
    obtain rfl : s' = s₁ := hsame
    exact ⟨earlier, last, _, hlogs, htried, fun _ => ⟨r, rfl⟩⟩
  · rw [bind_halt hquery] at hx
    cases hx
    refine ⟨earlier, last, _, hlogs, htried, ?_⟩
    rintro ⟨a, ha⟩
    exact absurd ha (halt.outcome_ne_done a)

/-- It comes to nothing unless the answer passes. -/
theorem query_then_logs {e : Engagement} {tab : TabRef} {action : PageAction} {params : Mapping}
    {f : PageResult → Activity (W × List PageCall) T P α}
    (hf : ∀ r ds s p, (f r h.logging ds s p).2.1 = s) {o : Outcome α}
    (hx : (query e tab action params >>= f) h.logging ds s p = (o, s', p')) :
    ∃ cs, s.Logs s' cs ∧ ((∃ a, o = .done a) → Passed tab action params cs) := by
  obtain ⟨earlier, last, oq, hlogs, htried, hdone⟩ := query_then_tried hf hx
  refine ⟨earlier ++ [last], hlogs, fun ho => ?_⟩
  obtain ⟨r, rfl⟩ := hdone ho
  exact htried.passed

theorem perform_passes {e : Engagement} {tab : TabRef} {action : PageAction} {params : Mapping}
    {again : PageCall → Prop} {start stop : T} {cs : List PageCall} {result : StepResult}
    (hx : Exchange e tab action params again start cs (.done result) stop) :
    Passed tab action params cs := by
  generalize ho : Outcome.done result = o at hx
  cases hx with
  | tabless => cases ho
  | @unmet probes halt stop => exact absurd ho (halt.done_ne_outcome result)
  | @tried probes earlier last met stop oq htab hawaited htried =>
    cases oq with
    | done r => exact htried.passed.append probes
    | _ => cases ho

/-- A condition looks at the page when it names an element and a check that is known. -/
def Inspects (params : Mapping) : Prop :=
  Step.textOf (Mapping.named params "selector") ≠ "" ∧
    CheckKind.ofName? (Text.lower (Text.trim (Step.textOf (Mapping.named params "check")))) ≠ none

theorem inspect_logs {e : Engagement} {tab : TabRef} {selector : String}
    {o : Outcome ElementFacts}
    (hx : Condition.inspect e tab selector h.logging ds s p = (o, s', p')) :
    ∃ cs, s.Logs s' cs ∧ ((∃ facts, o = .done facts) → selector ≠ "" →
      Passed tab .inspect [(.text "selector", .text selector)] cs) := by
  unfold Condition.inspect at hx
  by_cases hempty : selector = ""
  · rw [if_pos hempty] at hx
    cases hx
    exact ⟨[], .refl _, fun _ hne => absurd hempty hne⟩
  · rw [if_neg hempty] at hx
    obtain ⟨cs, hlogs, hpassed⟩ := query_then_logs (fun r ds s p => by
      cases ElementFacts.ofValue r.data <;> rfl) hx
    exact ⟨cs, hlogs, fun hdone _ => hpassed hdone⟩

theorem evaluate_logs {e : Engagement} {tab : TabRef} {params : Mapping} {o : Outcome Verdict}
    (hx : Condition.evaluate e params tab h.logging ds s p = (o, s', p')) :
    ∃ cs, s.Logs s' cs ∧ ((∃ verdict, o = .done verdict) → Inspects params →
      Passed tab .inspect
        [(.text "selector", .text (Step.textOf (Mapping.named params "selector")))] cs) := by
  unfold Condition.evaluate at hx
  by_cases htab : tab.isNone = true
  · rw [if_pos htab] at hx
    cases hx
    exact ⟨[], .refl _, fun hdone => absurd hdone.choose_spec nofun⟩
  · rw [if_neg htab] at hx
    cases hcheck : CheckKind.ofName? (Text.lower (Text.trim
        (Step.textOf (Mapping.named params "check")))) with
    | none =>
      simp only [hcheck] at hx
      cases hx
      exact ⟨[], .refl _, fun _ hinspects => absurd hcheck hinspects.2⟩
    | some check =>
      simp only [hcheck, bind_pure_map] at hx
      rcases hinspect : (Condition.inspect e tab (Step.textOf (Mapping.named params "selector")) :
        Activity (W × List PageCall) T P ElementFacts) h.logging ds s p with ⟨oi, s₁, p₁⟩
      obtain ⟨cs, hlogs, hpassed⟩ := inspect_logs hinspect
      rw [hinspect] at hx
      cases hx
      refine ⟨cs, hlogs, fun hdone hinspects => hpassed ?_ hinspects.1⟩
      obtain ⟨verdict, hverdict⟩ := hdone
      obtain ⟨facts, hfacts, -⟩ := Outcome.map_eq_done.1 hverdict
      exact ⟨facts, hfacts⟩

/-- A count that was answered is judged without a further call. -/
theorem itemCount_tried {e : Engagement} {tab : TabRef} {parent child : String} {o : Outcome Nat}
    {u u' : Unit}
    (hx : Repeater.itemCount e tab parent child h.logging ds s u = (o, s', u')) :
    ∃ earlier last oq, s.Logs s' (earlier ++ [last]) ∧
      Tried e.retry tab .count
        [(.text "selector", .text parent), (.text "child_selector", .text child)] e.retry.Repeats
        e.retry.maxRetries.toNat settle earlier last oq ∧
      ((∃ n, o = .done n) → ∃ r, oq = .done r) := by
  refine query_then_tried (fun r ds s u => ?_) hx
  cases Parameter.int? r.data none with
  | error f => rfl
  | ok n =>
    cases n with
    | none => rfl
    | some n =>
      show ((if n ≤ 0 then Activity.fail (.noItems parent child) else pure n.toNat :
        Errand (W × List PageCall) T Nat) h.logging ds s u).2.1 = s
      split <;> rfl

theorem itemCount_logs {e : Engagement} {tab : TabRef} {parent child : String} {o : Outcome Nat}
    {u u' : Unit}
    (hx : Repeater.itemCount e tab parent child h.logging ds s u = (o, s', u')) :
    ∃ cs, s.Logs s' cs ∧ ((∃ n, o = .done n) →
      Passed tab .count [(.text "selector", .text parent), (.text "child_selector", .text child)]
        cs) := by
  obtain ⟨earlier, last, oq, hlogs, htried, hdone⟩ := itemCount_tried hx
  refine ⟨earlier ++ [last], hlogs, fun ho => ?_⟩
  obtain ⟨r, rfl⟩ := hdone ho
  exact htried.passed

/-- The last answer decides, and by its problem alone. What a page is asked for comes to its end
only when the last answer tells of no problem; and that is enough for it, whatever the answer says
of success. -/
theorem answers_pass (e : Engagement) (tab : TabRef) (h : Host W T) (ds : List T) (s : Scene W T) :
    (∀ action params, ∃ earlier last,
      Makes (fun W => (query e tab action params : Errand W T PageResult)) h ds s ()
        (earlier ++ [last]) ∧
      PageCall.Asks last tab action params ∧
      (∀ r, last.Returns r → (query e tab action params h ds s ()).1 = settle r) ∧
      ∀ r, (query e tab action params h ds s ()).1 = .done r → last.Returns r) ∧
    (∀ action params, ∃ cs,
      Makes (fun W => (perform e tab action params : Errand W T StepResult)) h ds s () cs ∧
      ((∃ result, (perform e tab action params h ds s ()).1 = .done result) →
        Passed tab action params cs)) ∧
    (∀ params, ∃ cs,
      Makes (fun W => (Condition.evaluate e params tab : Errand W T Verdict)) h ds s () cs ∧
      ((∃ verdict, (Condition.evaluate e params tab h ds s ()).1 = .done verdict) →
        Inspects params → Passed tab .inspect
          [(.text "selector", .text (Step.textOf (Mapping.named params "selector")))] cs)) ∧
    ∀ parent child, ∃ cs,
      Makes (fun W => (Repeater.itemCount e tab parent child : Errand W T Nat)) h ds s () cs ∧
      ((∃ n, (Repeater.itemCount e tab parent child h ds s ()).1 = .done n) →
        Passed tab .count [(.text "selector", .text parent), (.text "child_selector", .text child)]
          cs) := by
  have hR (W W' : Type) : Composed True True e.config.elementPollMs
      fun P α (x : Activity W T P α) (x' : Activity W' T P α) => Alike False x x' :=
    Alike.composed False _
  refine ⟨fun action params => ?_, fun action params => ?_, fun params => ?_,
    fun parent child => ?_⟩
  · have hquery : Uniform False fun W => (query e tab action params : Errand W T PageResult) :=
      fun W W' => (hR W W').query e tab (fun _ => trivial) params
    obtain ⟨cs, hmakes, earlier, last, rfl, htried⟩ : ∃ cs,
        Makes (fun W => (query e tab action params : Errand W T PageResult)) h ds s () cs ∧
        ∃ earlier last, cs = earlier ++ [last] ∧
          Tried e.retry tab action params e.retry.Repeats e.retry.maxRetries.toNat settle earlier
            last (query e tab action params h ds s ()).1 := by
      refine Makes.of_uniform hquery (Q := fun cs o _ => ∃ earlier last, cs = earlier ++ [last] ∧
        Tried e.retry tab action params e.retry.Repeats _ settle earlier last o)
        fun o s' p' hx => ?_
      obtain ⟨earlier, last, hlogs, htried⟩ := query_logs hx
      exact ⟨_, hlogs, earlier, last, rfl, htried⟩
    refine ⟨earlier, last, hmakes, htried.asks last (by simp), htried.answered, fun r hr => ?_⟩
    rw [hr] at htried
    exact htried.returns.1
  · obtain ⟨cs, hmakes, hexchange⟩ := perform_makes e tab action params h ds s ()
    refine ⟨cs, hmakes, ?_⟩
    rintro ⟨result, hresult⟩
    rw [hresult] at hexchange
    exact perform_passes hexchange
  · exact Makes.of_uniform (fun W W' => (hR W W').evaluate params tab)
      (Q := fun cs o _ => (∃ verdict, o = .done verdict) → Inspects params → Passed tab .inspect
        [(.text "selector", .text (Step.textOf (Mapping.named params "selector")))] cs)
      fun _ _ _ => evaluate_logs
  · exact Makes.of_uniform (fun W W' => (hR W W').itemCount trivial e tab parent child)
      (Q := fun cs o _ => (∃ n, o = .done n) → Passed tab .count
        [(.text "selector", .text parent), (.text "child_selector", .text child)] cs)
      fun _ _ _ => itemCount_logs

/-- A click that did not run, by the word of the page, passes when the page names no problem. -/
theorem not_only_successful :
    ¬ ∀ (e : Engagement) (tab : TabRef) (action : PageAction) (params : Mapping)
      (s s' : Scene (List (Except Fault (Option PageResult))) Rat) (r : PageResult),
      (query e tab action params : Errand _ Rat PageResult) scripted [] s () = (.done r, s', ()) →
      r.success = true := by
  intro hall
  have hquery : (query {} (some (.number 1)) .click button : Errand _ Rat PageResult) scripted []
      (answering [.ok (some { success := false })]) () =
        (.done { success := false }, answering [], ()) := rfl
  cases hall _ _ _ _ _ _ _ hquery

end Dispatch

end BrowserFlow
