import BrowserFlow.Proofs.Iteration
import BrowserFlow.Proofs.PageCalls
import BrowserFlow.Proofs.Timely

/-!
What is asked of a page. A step inside a page first asks whether the element is there, until it is
or the time for it is over; then it asks for the action, again while the page cannot be reached, a
bounded number of times. The two loops have the same shape, a series of calls of which all but the
last came to nothing, and differ in what that means.

* `PageCall.Series`: calls that were repeated.
* `ElementWait.Polled`, `Dispatch.Awaited`: how a wait for an element goes.
* `Dispatch.Tried`: how an action is tried.
* `Dispatch.Exchange`: a whole step.
-/
namespace BrowserFlow
set_option autoImplicit false

variable {W T P α : Type}

/-! ## Repeated calls -/

/-- Calls for one thing, each made because the one before it came to nothing. -/
structure PageCall.Series (tab : TabRef) (action : PageAction) (params : Mapping)
    (again : PageCall → Prop) (earlier : List PageCall) (last : PageCall) : Prop where
  asks : ∀ c ∈ earlier ++ [last], PageCall.Asks c tab action params
  repeated : ∀ c ∈ earlier, again c

namespace PageCall

variable {tab : TabRef} {action : PageAction} {params : Mapping} {again : PageCall → Prop}
  {c last : PageCall} {earlier : List PageCall}

theorem Series.single (hc : c.Asks tab action params) : Series tab action params again [] c :=
  ⟨List.forall_mem_singleton.2 hc, fun _ h => absurd h List.not_mem_nil⟩

theorem Series.cons (hc : c.Asks tab action params) (ha : again c)
    (hs : Series tab action params again earlier last) :
    Series tab action params again (c :: earlier) last :=
  ⟨List.forall_mem_cons.2 ⟨hc, hs.asks⟩, List.forall_mem_cons.2 ⟨ha, hs.repeated⟩⟩

def Seen (c : PageCall) : Prop := c.verdict? = some true

/-- The element was not there, as far as the page could be reached. -/
def Unseen (c : PageCall) : Prop := c.verdict? = some false

/-- How a wait breaks off at a question: by a fault that does not pass, or because it was cut off
or never ends, with no sight of the element. -/
inductive Breaks (c : PageCall) : Halt → Prop
  | raised {f : Fault} : c.fault? = some f → f.isA .transient = false → Breaks c (.failed f)
  | expired {k : Nat} : ¬ c.Seen → Breaks c (.expired k)
  | endless : ¬ c.Seen → Breaks c .endless

theorem not_seen_of_unseen (hc : c.Unseen) : ¬ c.Seen := by
  unfold Seen
  rw [hc]
  nofun

theorem not_seen_of_unanswered (hc : c.answer = none) : ¬ c.Seen := by
  unfold Seen verdict?
  rw [hc]
  nofun

end PageCall

open PageCall Activity

variable [Clock T] {h : Host W T} {ds : List T} {s s' : Scene (W × List PageCall) T} {p p' : P}

/-! ## Waiting for an element -/

namespace ElementWait

def question (selector : String) : Mapping := [(.text "selector", .text selector)]

inductive Asked (c : PageCall) : Outcome Bool → Prop
  | told {found : Bool} : c.verdict? = some found → Asked c (.done found)
  | broken {e : Halt} : c.Breaks e → Asked c e.outcome

theorem check_logs {tab : TabRef} {selector : String} {o : Outcome Bool}
    (hx : check tab selector h.logging ds s p = (o, s', p')) :
    ∃ c, s.Logs s' [c] ∧ c.Asks tab .exists (question selector) ∧ Asked c o := by
  rcases hcall : (Activity.call fun h : Host (W × List PageCall) T =>
    h.perform tab .exists [(.text "selector", .text selector)]) h.logging ds s p with ⟨oc, s₁, p₁⟩
  obtain ⟨c, hlogs, hasks, hanswer⟩ := call_logs hcall
  cases oc with
  | done r =>
    rw [check, bind_done (attempt_done hcall)] at hx
    cases r with
    | none =>
      cases hx
      exact ⟨c, hlogs, hasks, .told (by rw [verdict?, hanswer]; rfl)⟩
    | some r =>
      cases hx
      exact ⟨c, hlogs, hasks, .told (by rw [verdict?, hanswer]; rfl)⟩
  | failed f =>
    rw [check, bind_done (attempt_failed hcall)] at hx
    cases hf : f.isA .transient with
    | true =>
      simp only [hf, if_true] at hx
      cases hx
      exact ⟨c, hlogs, hasks, .told (by simp [verdict?, hanswer, Outcome.answer?, hf])⟩
    | false =>
      simp only [hf, Bool.false_eq_true, if_false] at hx
      cases hx
      exact ⟨c, hlogs, hasks, .broken (.raised (by rw [fault?, hanswer]; rfl) hf)⟩
  | expired k =>
    rw [check, bind_halt (e := .expired k) (attempt_expired hcall)] at hx
    cases hx
    exact ⟨c, hlogs, hasks, .broken (.expired (not_seen_of_unanswered hanswer))⟩
  | endless =>
    rw [check, bind_halt (e := .endless) (attempt_endless hcall)] at hx
    cases hx
    exact ⟨c, hlogs, hasks, .broken (.endless (not_seen_of_unanswered hanswer))⟩

/-- How a wait with a deadline ends, given its last question. -/
inductive Polled (deadline : T) (last : PageCall) : Outcome WaitReport → T → Prop
  | found {r : WaitReport} {stop : T} : last.Seen → r.timedOut = false →
      Polled deadline last (.done r) stop
  | late {r : WaitReport} {stop : T} : last.Unseen → r.timedOut = true →
      Clock.le (Clock.sub deadline stop) Clock.zero = true → Polled deadline last (.done r) stop
  | broken {e : Halt} {stop : T} : last.Breaks e → Polled deadline last e.outcome stop

theorem pollFrom_logs {tab : TabRef} {selector : String} {start deadline interval : T}
    {polls fuel : Nat} {o : Outcome WaitReport}
    (hx : pollFrom tab selector start deadline interval polls fuel h.logging ds s p =
      (o, s', p')) :
    fuel = 0 ∧ o = .endless ∧ s.Logs s' [] ∨
      ∃ earlier last, s.Logs s' (earlier ++ [last]) ∧
        Series tab .exists (question selector) Unseen earlier last ∧
        Polled deadline last o s'.now := by
  induction fuel generalizing polls s p with
  | zero =>
    cases hx
    exact .inl ⟨rfl, rfl, .refl _⟩
  | succ fuel ih =>
    right
    rcases hcheck : check tab selector h.logging ds s p with ⟨oc, s₁, p₁⟩
    obtain ⟨c, hlogs, hasks, hc⟩ := check_logs hcheck
    cases hc with
    | broken hbreaks =>
      rw [pollFrom, bind_halt hcheck] at hx
      cases hx
      exact ⟨[], c, hlogs, .single hasks, .broken hbreaks⟩
    | @told found hverdict =>
      rw [pollFrom, bind_done hcheck, now_bind] at hx
      cases found with
      | true =>
        cases hx
        exact ⟨[], c, hlogs, .single hasks, .found hverdict rfl⟩
      | false =>
        have hunseen := not_seen_of_unseen hverdict
        simp only [Bool.false_eq_true, if_false] at hx
        by_cases hleft : Clock.le (Clock.sub deadline s₁.now) Clock.zero = true
        · rw [if_pos hleft] at hx
          cases hx
          exact ⟨[], c, hlogs, .single hasks, .late hverdict rfl hleft⟩
        · rw [if_neg hleft] at hx
          rcases hsleep : (Activity.sleep (Clock.least interval (Clock.sub deadline s₁.now)) :
            Activity (W × List PageCall) T P Unit) h.logging ds s₁ p₁ with ⟨os, s₂, p₂⟩
          obtain ⟨hquiet, rfl | ⟨k, rfl⟩⟩ := sleep_logs hsleep
          · -- the rest of the wait goes on behind this question
            rw [bind_done hsleep] at hx
            obtain ⟨-, rfl, hrest⟩ | ⟨earlier, last, hrest, hseries, hpolled⟩ := ih hx
            · exact ⟨[], c, (hlogs.trans hquiet).trans hrest, .single hasks,
                .broken (.endless hunseen)⟩
            · exact ⟨c :: earlier, last, (hlogs.trans hquiet).trans hrest,
                .cons hasks hverdict hseries, hpolled⟩
          · rw [bind_halt (e := .expired k) hsleep] at hx
            cases hx
            exact ⟨[], c, hlogs.trans hquiet, .single hasks, .broken (.expired hunseen)⟩

/-- The time for a wait and between its questions, as the clock has them. -/
def spans (timeoutMs pollMs : Int) : Except Fault (T × T) := do
  let timeout ← Clock.ofMillis timeoutMs
  let interval ← Clock.ofMillis pollMs
  pure (timeout, interval)

theorem run_logs {tab : TabRef} {selector : String} {timeoutMs pollMs : Int}
    {o : Outcome WaitReport}
    (hx : run tab selector timeoutMs pollMs h.logging ds s p = (o, s', p')) :
    (∃ f, (spans timeoutMs pollMs : Except Fault (T × T)) = .error f ∧ o = .failed f ∧ s' = s) ∨
      ∃ timeout interval earlier last,
        (spans timeoutMs pollMs : Except Fault (T × T)) = .ok (timeout, interval) ∧
        s.Logs s' (earlier ++ [last]) ∧
        Series tab .exists (question selector) Unseen earlier last ∧
        Polled (Clock.add s.now timeout) last o s'.now := by
  have hspans : (spans timeoutMs pollMs : Except Fault (T × T)) =
      (Clock.ofMillis timeoutMs).bind fun t =>
        (Clock.ofMillis pollMs).bind fun i => .ok (t, i) := rfl
  rw [hspans]
  rw [run, now_bind] at hx
  cases htimeout : (Clock.ofMillis timeoutMs : Except Fault T) with
  | error f =>
    rw [htimeout] at hx
    cases hx
    exact .inl ⟨f, rfl, rfl, rfl⟩
  | ok timeout =>
    rw [htimeout, ofExcept_ok, pure_bind] at hx
    cases hinterval : (Clock.ofMillis pollMs : Except Fault T) with
    | error f =>
      rw [hinterval] at hx
      cases hx
      exact .inl ⟨f, rfl, rfl, rfl⟩
    | ok interval =>
      rw [hinterval, ofExcept_ok, pure_bind] at hx
      obtain ⟨hfuel, -⟩ | ⟨earlier, last, hlogs, hseries, hpolled⟩ := pollFrom_logs hx
      · exact absurd hfuel (by simp [pollBound])
      · exact .inr ⟨timeout, interval, earlier, last, rfl, hlogs, hseries, hpolled⟩

/-- The fault of a wait that took too long. -/
def lateFault (timeoutMs : Int) (selector : String) : Fault :=
  match Config.intToFloat timeoutMs with
  | .ok seconds => .elementTimedOut timeoutMs (seconds / 1000.0) selector
  | .error f => f

/-- How a wait for an element that has to appear ends, given its last question. -/
inductive Required (timeoutMs : Int) (selector : String) (deadline : T) (last : PageCall) :
    Outcome Unit → T → Prop
  | found {stop : T} : last.Seen → Required timeoutMs selector deadline last (.done ()) stop
  | late {stop : T} : last.Unseen → Clock.le (Clock.sub deadline stop) Clock.zero = true →
      Required timeoutMs selector deadline last (.failed (lateFault timeoutMs selector)) stop
  | broken {e : Halt} {stop : T} : last.Breaks e →
      Required timeoutMs selector deadline last e.outcome stop

theorem require_logs {tab : TabRef} {selector : String} {timeoutMs pollMs : Int}
    {o : Outcome WaitReport}
    (hx : require tab selector timeoutMs pollMs h.logging ds s p = (o, s', p')) :
    (∃ f, (spans timeoutMs pollMs : Except Fault (T × T)) = .error f ∧ o = .failed f ∧ s' = s) ∨
      ∃ timeout interval earlier last,
        (spans timeoutMs pollMs : Except Fault (T × T)) = .ok (timeout, interval) ∧
        s.Logs s' (earlier ++ [last]) ∧
        Series tab .exists (question selector) Unseen earlier last ∧
        Required timeoutMs selector (Clock.add s.now timeout) last (o.map fun _ => ()) s'.now := by
  rcases hrun : (run tab selector timeoutMs pollMs : Activity (W × List PageCall) T P WaitReport)
    h.logging ds s p with ⟨orun, s₁, p₁⟩
  obtain ⟨f, hspans, rfl, rfl⟩ | ⟨timeout, interval, earlier, last, hspans, hlogs, hseries, hend⟩ :=
    run_logs hrun
  · rw [require, bind_halt (e := .failed f) hrun] at hx
    cases hx
    exact .inl ⟨f, hspans, rfl, rfl⟩
  · right
    refine ⟨timeout, interval, earlier, last, hspans, ?_⟩
    cases hend with
    | broken hbreaks =>
      rw [require, bind_halt hrun] at hx
      cases hx
      rw [Outcome.map_halt]
      exact ⟨hlogs, hseries, .broken hbreaks⟩
    | found hseen hr =>
      rw [require, bind_done hrun, if_neg (by simp [hr])] at hx
      cases hx
      exact ⟨hlogs, hseries, .found hseen⟩
    | late hunseen hr hover =>
      have hfails : o = .failed (lateFault timeoutMs selector) ∧ s' = s₁ := by
        rw [require, bind_done hrun, if_pos hr] at hx
        unfold lateFault
        cases hseconds : Config.intToFloat timeoutMs <;> rw [hseconds] at hx <;> cases hx <;>
          exact ⟨rfl, rfl⟩
      obtain ⟨rfl, rfl⟩ := hfails
      exact ⟨hlogs, hseries, .late hunseen hover⟩

end ElementWait

/-! ## Actions -/

/-- The call failed with a fault that is tried again. -/
def RetryPolicy.Repeats (r : RetryPolicy) (c : PageCall) : Prop :=
  ∃ f, c.fault? = some f ∧ r.covers f = true

theorem RetryPolicy.Repeats.lost {r : RetryPolicy} (hr : r.retryable = [.transient]) {c : PageCall}
    (hc : r.Repeats c) : c.Lost := by
  obtain ⟨f, hfault, hf⟩ := hc
  have htransient : f.isA .transient = true := by
    simpa [RetryPolicy.covers, hr] using (Bool.and_eq_true_iff.1 hf).2
  exact lost_of_fault hfault htransient

namespace Dispatch

inductive Attempted (c : PageCall) : Outcome PageResult → Prop
  | answered {r : PageResult} : c.Returns r → Attempted c (.done r)
  | failed {f : Fault} : c.fault? = some f → Attempted c (.failed f)
  | expired {k : Nat} : c.answer = none → Attempted c (.expired k)
  | endless : c.answer = none → Attempted c .endless

theorem ask_logs {tab : TabRef} {action : PageAction} {params : Mapping} {o : Outcome PageResult}
    (hx : ask tab action params h.logging ds s p = (o, s', p')) :
    ∃ c, s.Logs s' [c] ∧ c.Asks tab action params ∧ Attempted c o := by
  rcases hcall : (Activity.call fun h : Host (W × List PageCall) T => h.perform tab action params)
    h.logging ds s p with ⟨oc, s₁, p₁⟩
  obtain ⟨c, hlogs, hasks, hanswer⟩ := call_logs hcall
  obtain ⟨r, rfl⟩ | ⟨e, rfl⟩ := oc.done_or_halt
  · rw [ask, bind_done hcall] at hx
    cases r with
    | none =>
      cases hx
      exact ⟨c, hlogs, hasks, .failed (by rw [fault?, hanswer, ← hasks.action]; rfl)⟩
    | some r =>
      cases hx
      exact ⟨c, hlogs, hasks, .answered hanswer⟩
  · rw [ask, bind_halt hcall] at hx
    cases hx
    cases e with
    | failed f => exact ⟨c, hlogs, hasks, .failed (by rw [fault?, hanswer]; rfl)⟩
    | expired k => exact ⟨c, hlogs, hasks, .expired hanswer⟩
    | endless => exact ⟨c, hlogs, hasks, .endless hanswer⟩

/-- How an action is tried: one attempt after another, and what the last one comes to. A page that
answers is not asked again. -/
structure Tried (r : RetryPolicy) (tab : TabRef) (action : PageAction) (params : Mapping)
    (again : PageCall → Prop) (left : Nat) (settle : PageResult → Outcome PageResult)
    (earlier : List PageCall) (last : PageCall) (o : Outcome PageResult) : Prop
    extends Series tab action params again earlier last where
  bounded : earlier.length ≤ left
  answered : ∀ result, last.Returns result → o = settle result
  unanswered : (∀ result, ¬ last.Returns result) → ∃ e : Halt, o = e.outcome
  failed : ∀ f, last.fault? = some f → r.covers f = false → o = .failed f

section Attempts
variable {r : RetryPolicy} {tab : TabRef} {action : PageAction} {params : Mapping} {left : Nat}

theorem Tried.imp {again again' : PageCall → Prop} {settle : PageResult → Outcome PageResult}
    {earlier : List PageCall} {last : PageCall} {o : Outcome PageResult}
    (ht : Tried r tab action params again left settle earlier last o)
    (himp : ∀ c, again c → again' c) :
    Tried r tab action params again' left settle earlier last o :=
  { ht with repeated := fun c hc => himp c (ht.repeated c hc) }

theorem Attempted.tried {c : PageCall} {o : Outcome PageResult} (hc : Attempted c o)
    (hasks : c.Asks tab action params) :
    Tried r tab action params r.Repeats left .done [] c o where
  toSeries := .single hasks
  bounded := Nat.zero_le left
  answered result hresult := by
    have hfault := fault?_of_returns hresult
    unfold Returns at hresult
    cases hc <;> simp_all [Returns]
  unanswered hnone := by
    cases hc with
    | answered hr => exact absurd hr (hnone _)
    | failed => exact ⟨.failed _, rfl⟩
    | expired => exact ⟨.expired _, rfl⟩
    | endless => exact ⟨.endless, rfl⟩
  failed f hf _ := by
    cases hc with
    | answered hr =>
      rw [fault?_of_returns hr] at hf
      cases hf
    | failed hfault =>
      rw [hfault] at hf
      cases hf
      rfl
    | expired hanswer | endless hanswer =>
      rw [fault?, hanswer] at hf
      cases hf

/-- An attempt that would be followed by another, if the pause between them ended. -/
theorem Tried.brokenOff {c : PageCall} {f : Fault} (hasks : c.Asks tab action params)
    (hfault : c.fault? = some f) (hf : r.covers f = true) (e : Halt) :
    Tried r tab action params r.Repeats left .done [] c e.outcome where
  toSeries := .single hasks
  bounded := Nat.zero_le left
  answered result hresult := by
    rw [fault?_of_returns hresult] at hfault
    cases hfault
  unanswered _ := ⟨e, rfl⟩
  failed f' hf' hcovers := by
    rw [hfault] at hf'
    cases hf'
    rw [hf] at hcovers
    cases hcovers

theorem pause_logs {o : Outcome Unit} (hx : r.pause h.logging ds s p = (o, s', p')) :
    s.Logs s' [] := by
  unfold RetryPolicy.pause at hx
  split at hx
  · cases hd : (Clock.ofMillis r.delayMs : Except Fault T) with
    | error f =>
      rw [hd] at hx
      cases hx
      exact .refl s
    | ok d =>
      rw [hd] at hx
      exact (sleep_logs hx).1
  · cases hx
    exact .refl s

theorem runFrom_logs {o : Outcome PageResult}
    (hx : r.runFrom (ask tab action params) left h.logging ds s p = (o, s', p')) :
    ∃ earlier last, s.Logs s' (earlier ++ [last]) ∧
      Tried r tab action params r.Repeats left .done earlier last o := by
  induction left generalizing s p with
  | zero =>
    obtain ⟨c, hlogs, hasks, hc⟩ := ask_logs hx
    exact ⟨[], c, hlogs, hc.tried hasks⟩
  | succ left ih =>
    rcases hask : (ask tab action params : Activity (W × List PageCall) T P PageResult)
      h.logging ds s p with ⟨oa, s₁, p₁⟩
    obtain ⟨c, hlogs, hasks, hc⟩ := ask_logs hask
    cases hc with
    | answered hresult =>
      rw [RetryPolicy.runFrom, bind_done (attempt_done hask)] at hx
      cases hx
      exact ⟨[], c, hlogs, (Attempted.answered hresult).tried hasks⟩
    | expired hanswer =>
      rw [RetryPolicy.runFrom, bind_halt (e := .expired _) (attempt_expired hask)] at hx
      cases hx
      exact ⟨[], c, hlogs, (Attempted.expired hanswer).tried hasks⟩
    | endless hanswer =>
      rw [RetryPolicy.runFrom, bind_halt (e := .endless) (attempt_endless hask)] at hx
      cases hx
      exact ⟨[], c, hlogs, (Attempted.endless hanswer).tried hasks⟩
    | @failed f hfault =>
      rw [RetryPolicy.runFrom, bind_done (attempt_failed hask)] at hx
      cases hf : r.covers f with
      | false =>
        simp only [hf, Bool.false_eq_true, if_false] at hx
        cases hx
        exact ⟨[], c, hlogs, (Attempted.failed hfault).tried hasks⟩
      | true =>
        simp only [hf, if_true] at hx
        rcases hpause : (r.pause : Activity (W × List PageCall) T P Unit) h.logging ds s₁ p₁ with
          ⟨op, s₂, p₂⟩
        have hquiet := hlogs.trans (pause_logs hpause)
        obtain ⟨⟨⟩, rfl⟩ | ⟨e, rfl⟩ := op.done_or_halt
        · -- what follows the pause is a series of its own
          rw [bind_done hpause] at hx
          obtain ⟨earlier, last, hrest, htried⟩ := ih hx
          exact ⟨c :: earlier, last, hquiet.trans hrest, {
            toSeries := .cons hasks ⟨f, hfault, hf⟩ htried.toSeries
            bounded := Nat.succ_le_succ htried.bounded
            answered := htried.answered
            unanswered := htried.unanswered
            failed := htried.failed }⟩
        · rw [bind_halt hpause] at hx
          cases hx
          exact ⟨[], c, hquiet, .brokenOff hasks hfault hf e⟩

/-- What an answer comes to: a problem in the page is a fault. -/
def settle (r : PageResult) : Outcome PageResult :=
  if r.error.isTruthy then .failed (.pageProblem r.error.display) else .done r

theorem query_logs {e : Engagement} {o : Outcome PageResult}
    (hx : query e tab action params h.logging ds s p = (o, s', p')) :
    ∃ earlier last, s.Logs s' (earlier ++ [last]) ∧
      Tried e.retry tab action params e.retry.Repeats e.retry.maxRetries.toNat settle earlier last
        o := by
  rcases hrun : (e.retry.run (ask tab action params) :
    Activity (W × List PageCall) T P PageResult) h.logging ds s p with ⟨oc, s₁, p₁⟩
  obtain ⟨earlier, last, hlogs, htried⟩ := runFrom_logs hrun
  by_cases hreturns : ∃ result, last.Returns result
  · obtain ⟨result, hresult⟩ := hreturns
    obtain rfl := htried.answered result hresult
    have hsettles : s' = s₁ ∧ o = settle result := by
      rw [query, bind_done hrun] at hx
      unfold settle
      split at hx <;> cases hx
      · exact ⟨rfl, (if_pos ‹_›).symm⟩
      · exact ⟨rfl, (if_neg ‹_›).symm⟩
    obtain ⟨rfl, rfl⟩ := hsettles
    refine ⟨earlier, last, hlogs, htried.toSeries, htried.bounded, fun result' hresult' => ?_,
      fun hnone => absurd hresult (hnone result), fun f hf _ => ?_⟩
    · cases hresult.symm.trans hresult'
      rfl
    · rw [fault?_of_returns hresult] at hf
      cases hf
  · have hnone : ∀ result, ¬ last.Returns result := not_exists.1 hreturns
    obtain ⟨halt, rfl⟩ := htried.unanswered hnone
    rw [query, bind_halt hrun] at hx
    cases hx
    refine ⟨earlier, last, hlogs, htried.toSeries, htried.bounded,
      fun result hresult => absurd hresult (hnone result), fun _ => ⟨halt, rfl⟩,
      fun f hf hcovers => ?_⟩
    have hfault := htried.failed f hf hcovers
    cases halt <;> cases hfault
    rfl

end Attempts

/-! ## Steps inside a page -/

/-- How long the element is waited for: for the step that does nothing else, its own timeout when
it has a readable one. A double that is no number of milliseconds is a fault. -/
def patience (e : Engagement) (action : PageAction) (params : Mapping) : Except Fault Int :=
  if action = .waitForElement then
    (Parameter.int? (Mapping.named params "timeout") none).map (·.getD e.config.elementTimeoutMs)
  else .ok e.config.elementTimeoutMs

section Steps
variable {e : Engagement} {tab : TabRef} {action : PageAction} {params : Mapping}

theorem awaitElement_unnamed (hnamed : (Mapping.named params "selector").isTruthy = false) :
    (awaitElement e tab action params : Activity W T P Unit) = pure () :=
  if_neg (by simp [hnamed])

/-- A step with a selector waits for its element as long as its patience says. -/
theorem awaitElement_named (hnamed : (Mapping.named params "selector").isTruthy = true) :
    (awaitElement e tab action params : Activity W T P Unit) =
      Activity.ofExcept (patience e action params) >>= fun timeoutMs =>
        ElementWait.require tab (Mapping.named params "selector").display timeoutMs
          e.config.elementPollMs >>= fun _ => pure () := by
  unfold awaitElement patience
  rw [if_pos hnamed, Repeater.int?_default]
  split
  · cases Parameter.int? (Mapping.named params "timeout") none <;> rfl
  · rfl

/-- How a step waits for the element that its parameters name, if they name one. -/
inductive Awaited (e : Engagement) (tab : TabRef) (action : PageAction) (params : Mapping)
    (start : T) : List PageCall → Outcome Unit → T → Prop
  | unnamed : (Mapping.named params "selector").isTruthy = false →
      Awaited e tab action params start [] (.done ()) start
  | unreadable {f : Fault} : (Mapping.named params "selector").isTruthy = true →
      patience e action params = .error f → Awaited e tab action params start [] (.failed f) start
  | unmeasured {timeoutMs : Int} {f : Fault} : (Mapping.named params "selector").isTruthy = true →
      patience e action params = .ok timeoutMs →
      (ElementWait.spans timeoutMs e.config.elementPollMs : Except Fault (T × T)) = .error f →
      Awaited e tab action params start [] (.failed f) start
  | probed {timeoutMs : Int} {timeout interval stop : T} {earlier : List PageCall}
      {last : PageCall} {o : Outcome Unit} : (Mapping.named params "selector").isTruthy = true →
      patience e action params = .ok timeoutMs →
      ElementWait.spans timeoutMs e.config.elementPollMs = .ok (timeout, interval) →
      Series tab .exists (ElementWait.question (Mapping.named params "selector").display) Unseen
        earlier last →
      ElementWait.Required timeoutMs (Mapping.named params "selector").display
        (Clock.add start timeout) last o stop →
      Awaited e tab action params start (earlier ++ [last]) o stop

theorem awaitElement_logs {o : Outcome Unit}
    (hx : awaitElement e tab action params h.logging ds s p = (o, s', p')) :
    ∃ cs, s.Logs s' cs ∧ Awaited e tab action params s.now cs o s'.now := by
  cases hnamed : (Mapping.named params "selector").isTruthy with
  | false =>
    rw [awaitElement_unnamed hnamed] at hx
    cases hx
    exact ⟨[], .refl _, .unnamed hnamed⟩
  | true =>
    rw [awaitElement_named hnamed] at hx
    cases hpatience : patience e action params with
    | error f =>
      rw [hpatience] at hx
      cases hx
      exact ⟨[], .refl _, .unreadable hnamed hpatience⟩
    | ok timeoutMs =>
      rw [hpatience, ofExcept_ok, pure_bind, bind_pure_map] at hx
      rcases hrequire : (ElementWait.require tab (Mapping.named params "selector").display timeoutMs
        e.config.elementPollMs : Activity (W × List PageCall) T P WaitReport) h.logging ds s p with
          ⟨oc, s₁, p₁⟩
      rw [hrequire] at hx
      cases hx
      obtain ⟨f, hspans, rfl, rfl⟩ |
          ⟨timeout, interval, earlier, last, hspans, hlogs, hseries, hend⟩ :=
        ElementWait.require_logs hrequire
      · exact ⟨[], .refl _, .unmeasured hnamed hpatience hspans⟩
      · exact ⟨earlier ++ [last], hlogs, .probed hnamed hpatience hspans hseries hend⟩

def concluded (tab : TabRef) (action : PageAction) (params : Mapping) :
    Outcome PageResult → Outcome StepResult
  | .done r =>
    match write? action params r with
    | .ok write => .done ⟨tab, write⟩
    | .error f => .failed f
  | .failed f => .failed f
  | .expired k => .expired k
  | .endless => .endless

/-- The calls of a step inside a page, how it ends, and when. -/
inductive Exchange (e : Engagement) (tab : TabRef) (action : PageAction) (params : Mapping)
    (again : PageCall → Prop) (start : T) : List PageCall → Outcome StepResult → T → Prop
  | tabless : tab = none →
      Exchange e tab action params again start [] (.failed (.noTabForAction action.name)) start
  | unmet {probes : List PageCall} {halt : Halt} {stop : T} : tab ≠ none →
      Awaited e tab action params start probes halt.outcome stop →
      Exchange e tab action params again start probes halt.outcome stop
  | tried {probes earlier : List PageCall} {last : PageCall} {met stop : T}
      {o : Outcome PageResult} : tab ≠ none →
      Awaited e tab action params start probes (.done ()) met →
      Tried e.retry tab action params again e.retry.maxRetries.toNat settle earlier last o →
      Exchange e tab action params again start (probes ++ (earlier ++ [last]))
        (concluded tab action params o) stop

theorem Exchange.imp {again again' : PageCall → Prop} {start stop : T} {cs : List PageCall}
    {o : Outcome StepResult} (hx : Exchange e tab action params again start cs o stop)
    (himp : ∀ c, again c → again' c) : Exchange e tab action params again' start cs o stop := by
  cases hx with
  | tabless htab => exact .tabless htab
  | unmet htab hawaited => exact .unmet htab hawaited
  | tried htab hawaited htried => exact .tried htab hawaited (htried.imp himp)

theorem perform_logs {o : Outcome StepResult}
    (hx : perform e tab action params h.logging ds s p = (o, s', p')) :
    ∃ cs, s.Logs s' cs ∧ Exchange e tab action params e.retry.Repeats s.now cs o s'.now := by
  cases tab with
  | none =>
    cases hx
    exact ⟨[], .refl _, .tabless rfl⟩
  | some t =>
    have hsome : (some t : TabRef) ≠ none := Option.some_ne_none t
    rw [perform, if_neg (by simp)] at hx
    rcases hawait : (awaitElement e (some t) action params :
      Activity (W × List PageCall) T P Unit) h.logging ds s p with ⟨oa, s₁, p₁⟩
    obtain ⟨probes, hprobes, hawaited⟩ := awaitElement_logs hawait
    obtain ⟨⟨⟩, rfl⟩ | ⟨halt, rfl⟩ := oa.done_or_halt
    · rw [bind_done hawait] at hx
      rcases hquery : (query e (some t) action params :
        Activity (W × List PageCall) T P PageResult) h.logging ds s₁ p₁ with ⟨oq, s₂, p₂⟩
      obtain ⟨earlier, last, hlogs, htried⟩ := query_logs hquery
      have hconcluded : s' = s₂ ∧ o = concluded (some t) action params oq := by
        obtain ⟨r, rfl⟩ | ⟨halt, rfl⟩ := oq.done_or_halt
        · rw [bind_done hquery] at hx
          cases hw : write? action params r <;> rw [hw] at hx <;> cases hx <;>
            exact ⟨rfl, by rw [concluded, hw]⟩
        · rw [bind_halt hquery] at hx
          cases halt <;> cases hx <;> exact ⟨rfl, rfl⟩
      obtain ⟨rfl, rfl⟩ := hconcluded
      exact ⟨probes ++ (earlier ++ [last]), hprobes.trans hlogs, .tried hsome hawaited htried⟩
    · rw [bind_halt hawait] at hx
      cases hx
      exact ⟨probes, hprobes, .unmet hsome hawaited⟩

variable (e tab action params)

theorem perform_uniform :
    Uniform False fun W => (perform e tab action params : Activity W T P StepResult) :=
  fun _ _ => (Alike.composed False e.config.elementPollMs).dispatch tab (fun _ => trivial) params

theorem perform_makes (h : Host W T) (ds : List T) (s : Scene W T) (p : P) :
    let r := perform e tab action params h ds s p
    ∃ cs, Makes (fun W => (perform e tab action params : Activity W T P StepResult)) h ds s p cs ∧
      Exchange e tab action params e.retry.Repeats s.now cs r.1 r.2.1.now :=
  Makes.of_uniform (perform_uniform e tab action params) fun _ _ _ => perform_logs

/-- The calls of a step inside a page: questions for its element until it is seen, and only then
the action, again while the page cannot be reached. -/
theorem perform_exchanges (hr : e.retry.retryable = [.transient]) :
    (∀ {W T P : Type} [Clock T] (h : Host W T) (ds : List T) (s : Scene W T) (p : P),
      let r := perform e tab action params h ds s p
      ∃ cs, Makes (fun W => (perform e tab action params : Activity W T P StepResult)) h ds s p cs ∧
        Exchange e tab action params Lost s.now cs r.1 r.2.1.now) ∧
    (1 ≤ e.config.elementPollMs → ∀ {W P : Type} (h : Host W Rat) (ds : List Rat) (s : Scene W Rat)
      (p : P), Before s.now ds → (perform e tab action params h ds s p).1 ≠ .endless) := by
  refine ⟨fun h ds s p => ?_, fun hpoll W P h ds s p hnow => ?_⟩
  · obtain ⟨cs, hmakes, hexchange⟩ := perform_makes e tab action params h ds s p
    exact ⟨cs, hmakes, hexchange.imp fun c hc => hc.lost hr⟩
  · have htimely : Timely (perform e tab action params : Activity W Rat P StepResult) :=
      (Timely.composed hpoll).dispatch tab (fun _ => trivial) params
    obtain ⟨-, hend⟩ := htimely h ds s p hnow
    intro ho
    rw [ho] at hend
    exact hend

end Steps

/-- A page that gives these answers, one after another. -/
def scripted : Host (List (Except Fault (Option PageResult))) T where
  create _ _ _ w := .done w [] (.error .browserNotStarted)
  update _ _ _ w := .done w [] (.error .browserNotStarted)
  get _ _ w := .done w [] (.error .browserNotStarted)
  reload _ _ w := .done w [] (.error .browserNotStarted)
  remove _ _ w := .done w [] (.error .browserNotStarted)
  query _ _ _ w := .done w [] (.error .browserNotStarted)
  capture _ _ w := .done w [] (.error .browserNotStarted)
  awaitLoad _ _ w := .done w [] (.error .browserNotStarted)
  perform _ _ _ _ w := .done w.tail [] (w.headD (.ok none))
  arrivals _ w := (w, [])

def answering (answers : List (Except Fault (Option PageResult))) :
    Scene (List (Except Fault (Option PageResult))) T :=
  ⟨answers, Clock.zero, {}⟩

/-- A page that is busy at first, and once more when the element is there. -/
def busyPage : Scene (List (Except Fault (Option PageResult))) T :=
  answering [.error (.scriptBroken (.number 1) "busy"), .ok (some (.ofData (.bool true))), .ok none,
    .ok (some { success := true })]

def button : Mapping := [(.text "selector", .text "#a")]

theorem perform_exchanges_busyPage :
    ({} : Engagement).retry.retryable = [.transient] ∧
      ∃ cs, cs.map PageCall.action = [.exists, .exists, .click, .click] ∧
        Exchange {} (some (.number 1)) .click button Lost (0 : Rat) cs
          (.done ⟨some (.number 1), none⟩) 1 := by
  have hr : ({} : Engagement).retry.retryable = [.transient] := rfl
  obtain ⟨cs, hmakes, hexchange⟩ := (perform_exchanges {} (some (.number 1)) .click button hr).1
    scripted [] (busyPage : Scene _ Rat) ()
  refine ⟨hr, cs, ?_, ?_⟩
  · have hactions := congrArg (fun r => r.2.1.world.2.map PageCall.action) hmakes
    exact hactions.symm.trans (by decide +kernel)
  · have hend : ((perform {} (some (.number 1)) .click button : Errand _ Rat StepResult) scripted []
        busyPage ()).1 = .done ⟨some (.number 1), none⟩ := by decide +kernel
    have hstop : ((perform {} (some (.number 1)) .click button : Errand _ Rat StepResult)
        scripted [] busyPage ()).2.1.now = 1 := by decide +kernel
    rw [← hend, ← hstop]
    exact hexchange

/-- A wait of more milliseconds than any double holds fails before the first question. -/
theorem not_always_probed :
    ¬ ∀ (e : Engagement) (tab : TabRef) (action : PageAction) (params : Mapping)
      (s : Scene (List (Except Fault (Option PageResult))) Float) (cs : List PageCall),
      e.retry.retryable = [.transient] → 1 ≤ e.config.elementPollMs →
      (∀ x, Mapping.named params "timeout" = .float x →
        ∃ b, Decimal.Reading.ofFloat x = .finite b) →
      tab ≠ none → (Mapping.named params "selector").isTruthy = true →
      Makes (fun W => (perform e tab action params : Errand W Float StepResult)) scripted [] s ()
        cs → cs ≠ [] := by
  intro hall
  let e : Engagement := { config := { elementTimeoutMs := 10 ^ 400 } }
  obtain ⟨cs, hmakes, -⟩ := perform_makes e (some (.number 1)) .click button scripted []
    (busyPage : Scene _ Float) ()
  have hnone : cs.length = 0 := by
    have hlog := congrArg (fun r => r.2.1.world.2.length) hmakes
    exact hlog.symm.trans (by decide +kernel)
  refine hall e (some (.number 1)) .click button busyPage cs rfl (by decide) ?_ nofun rfl hmakes
    (List.length_eq_zero_iff.1 hnone)
  intro x hx
  cases hx

end Dispatch

end BrowserFlow
