import BrowserFlow.Proofs.Composition
import Mathlib.Algebra.Order.Field.Rat
import Mathlib.Tactic.Linarith

/-!
Activities and their deadlines, with time counted exactly. Time never goes back, and no deadline
passes unnoticed: an activity that ends by itself does so before all of them, and one that is cut
off is so exactly at the first, the outermost of equal ones counting. One of both happens to every
block whose waits for elements have an interval, since the bound on their polls is never used up.

* `Activity.Timely`: an activity that ends in time.
* `Activity.Timely.within_le`: a scope with a budget is over by its deadline.
* `Activity.Timely.closed`: however timely activities are put together, they are timely.
* `ElementWait.require_timely`: a wait for an element is timely when it pauses at all.
-/
namespace BrowserFlow
set_option autoImplicit false

variable {W P α β : Type}

namespace Clock

theorem le_iff {s t : Rat} : Clock.le s t = true ↔ s ≤ t := decide_eq_true_iff

theorem add_eq (s t : Rat) : Clock.add s t = s + t := rfl

theorem sub_eq (s t : Rat) : Clock.sub s t = s - t := rfl

theorem zero_eq : (Clock.zero : Rat) = 0 := rfl

theorem ofMillis_eq (n : Int) : (Clock.ofMillis n : Except Fault Rat) = .ok (n / 1000) := by
  rw [← Nat.cast_ofNat, ← Rat.mkRat_eq_div]
  rfl

theorem millis_le_zero {n : Int} : Clock.le ((n : Rat) / 1000) Clock.zero = true ↔ n ≤ 0 := by
  rw [le_iff, zero_eq, div_le_iff₀ (by norm_num), zero_mul, Int.cast_nonpos]

end Clock

namespace Activity

/-! ## The first deadline -/

/-- Of these deadlines the one at depth `k` passes first, and it does so at `t`. -/
structure PassesFirst (ds : List Rat) (k : Nat) (t : Rat) : Prop where
  own : ds[k]? = some t
  first : ∀ d ∈ ds, t ≤ d
  outermost : ∀ j < k, ∀ d, ds[j]? = some d → t < d

theorem PassesFirst.unique {ds : List Rat} {k j : Nat} {t u : Rat} (hk : PassesFirst ds k t)
    (hj : PassesFirst ds j u) : k = j ∧ t = u := by
  have htu : t = u :=
    le_antisymm (hk.first u (List.mem_of_getElem? hj.own))
      (hj.first t (List.mem_of_getElem? hk.own))
  subst htu
  refine ⟨le_antisymm (not_lt.1 fun hlt => ?_) (not_lt.1 fun hlt => ?_), rfl⟩
  · exact lt_irrefl t (hk.outermost j hlt t hj.own)
  · exact lt_irrefl t (hj.outermost k hlt t hk.own)

theorem PassesFirst.cons {ds : List Rat} {k : Nat} {t d : Rat} (hk : PassesFirst ds k t)
    (hd : t < d) : PassesFirst (d :: ds) (k + 1) t where
  own := hk.own
  first := List.forall_mem_cons.2 ⟨hd.le, hk.first⟩
  outermost := by
    rintro (_ | j) hj e he
    · cases he
      exact hd
    · exact hk.outermost j (Nat.lt_of_succ_lt_succ hj) e he

theorem earliest_none {ds : List Rat} {depth : Nat} (he : earliest depth ds = none) : ds = [] := by
  cases ds with
  | nil => rfl
  | cons d ds =>
    rw [earliest] at he
    split at he
    · split at he <;> cases he
    · cases he

/-- The search for the earliest deadline finds the one that passes first. -/
theorem earliest_passesFirst {ds : List Rat} {depth k : Nat} {t : Rat}
    (he : earliest depth ds = some (k, t)) : ∃ j, k = depth + j ∧ PassesFirst ds j t := by
  induction ds generalizing depth k t with
  | nil => cases he
  | cons d ds ih =>
    rw [earliest] at he
    cases hrest : earliest (depth + 1) ds with
    | none =>
      rw [hrest] at he
      cases he
      obtain rfl := earliest_none hrest
      exact ⟨0, rfl, rfl, by simp, nofun⟩
    | some e =>
      obtain ⟨i, e⟩ := e
      obtain ⟨j, rfl, hj⟩ := ih hrest
      rw [hrest] at he
      by_cases hle : d ≤ e
      · have hfirst : (depth, d) = (k, t) := by simpa [Clock.le_iff, hle] using he
        cases hfirst
        refine ⟨0, rfl, rfl, List.forall_mem_cons.2 ⟨le_rfl, fun e' he' => ?_⟩, nofun⟩
        exact hle.trans (hj.first e' he')
      · have hlater : (depth + 1 + j, e) = (k, t) := by simpa [Clock.le_iff, hle] using he
        cases hlater
        exact ⟨j + 1, by omega, hj.cons (not_le.1 hle)⟩

theorem exists_earliest {ds : List Rat} (hne : ds ≠ []) :
    ∃ k t, earliest 0 ds = some (k, t) ∧ PassesFirst ds k t := by
  cases he : earliest 0 ds with
  | none => exact absurd (earliest_none he) hne
  | some e =>
    obtain ⟨k, t⟩ := e
    obtain ⟨j, rfl, hj⟩ := earliest_passesFirst he
    rw [Nat.zero_add]
    exact ⟨j, t, rfl, hj⟩

/-- No deadline passed up to now. -/
abbrev Before (now : Rat) (ds : List Rat) : Prop := ∀ d ∈ ds, now < d

/-- A sleep ends after its time with every deadline ahead, or at the deadline that passes first. -/
theorem wake_cases {ds : List Rat} {now : Rat} (duration : Rat) (hnow : Before now ds) :
    (∃ t, wake ds now duration = .ok t ∧ t = now + max 0 duration ∧ Before t ds) ∨
      ∃ k t, wake ds now duration = .error (k, t) ∧ now < t ∧ t ≤ now + duration ∧
        PassesFirst ds k t := by
  unfold wake
  simp only [Clock.le_iff, Clock.zero_eq, Clock.add_eq]
  by_cases hd : duration ≤ 0
  · rw [if_pos hd]
    exact .inl ⟨now, rfl, by rw [max_eq_left hd, add_zero], hnow⟩
  · rw [if_neg hd]
    have hstop : now + max 0 duration = now + duration := by rw [max_eq_right (le_of_not_ge hd)]
    by_cases hds : ds = []
    · subst hds
      exact .inl ⟨_, rfl, hstop.symm, nofun⟩
    · obtain ⟨k, t, he, hk⟩ := exists_earliest hds
      simp only [he]
      by_cases ht : t ≤ now + duration
      · rw [if_pos ht]
        exact .inr ⟨k, t, rfl, hnow t (List.mem_of_getElem? hk.own), ht, hk⟩
      · rw [if_neg ht]
        refine .inl ⟨_, rfl, hstop.symm, fun d hd => ?_⟩
        exact (not_le.1 ht).trans_le (hk.first d hd)

theorem sleep_cases {ds : List Rat} {s : Scene W Rat} {p : P} (h : Host W Rat) (d : Rat)
    (hnow : Before s.now ds) :
    (∃ s', (Activity.sleep d : Activity W Rat P Unit) h ds s p = (.done (), s', p) ∧
        s'.now = s.now + max 0 d ∧ Before s'.now ds) ∨
      ∃ k s', (Activity.sleep d : Activity W Rat P Unit) h ds s p = (.expired k, s', p) ∧
        s.now < s'.now ∧ PassesFirst ds k s'.now := by
  obtain ⟨t, hw, ht, hds⟩ | ⟨k, t, hw, ht, -, hk⟩ := wake_cases d hnow
  · refine .inl ⟨{ yielded h s with now := t }, ?_, ht, hds⟩
    simp only [Activity.sleep, Bind.bind, Activity.bind, yield_apply, yielded, hw]
  · refine .inr ⟨k, { yielded h s with now := t }, ?_, ht, hk⟩
    simp only [Activity.sleep, Bind.bind, Activity.bind, yield_apply, yielded, hw]

/-! ## Ends in time -/

/-- An end at a moment: by itself with every deadline ahead, or by the deadline that passes
first. -/
def InTime (ds : List Rat) (t : Rat) : Outcome α → Prop
  | .done _ | .failed _ => Before t ds
  | .expired k => PassesFirst ds k t
  | .endless => False

theorem InTime.le {ds : List Rat} {t d : Rat} {o : Outcome α} (ht : InTime ds t o) (hd : d ∈ ds) :
    t ≤ d := by
  cases o with
  | done a => exact (ht d hd).le
  | failed f => exact (ht d hd).le
  | expired k => exact ht.first d hd
  | endless => exact ht.elim

theorem InTime.halt {ds : List Rat} {t : Rat} {e : Halt}
    (ht : InTime ds t (e.outcome : Outcome α)) :
    InTime ds t (e.outcome : Outcome β) := by
  cases e <;> exact ht

/-- An activity that ends in time whenever it starts with every deadline ahead. -/
def Timely (x : Activity W Rat P α) : Prop :=
  ∀ h ds s p, Before s.now ds →
    s.now ≤ (x h ds s p).2.1.now ∧ InTime ds (x h ds s p).2.1.now (x h ds s p).1

namespace Timely

variable {x : Activity W Rat P α}

theorem instant (hx : ∀ h ds s p, (x h ds s p).2.1.now = s.now ∧
    ((∃ a, (x h ds s p).1 = .done a) ∨ ∃ f, (x h ds s p).1 = .failed f)) : Timely x := by
  intro h ds s p hnow
  obtain ⟨hsame, ⟨a, ho⟩ | ⟨f, ho⟩⟩ := hx h ds s p
  · rw [hsame, ho]
    exact ⟨le_rfl, hnow⟩
  · rw [hsame, ho]
    exact ⟨le_rfl, hnow⟩

theorem follow {ds : List Rat} {p : P} (r : Reply W Rat α) {s : Scene W Rat}
    (hnow : Before s.now ds) : s.now ≤ (Activity.follow ds p r s).2.1.now ∧
      InTime ds (Activity.follow ds p r s).2.1.now (Activity.follow ds p r s).1 := by
  -- each sleep ends with every deadline ahead, or it is the last
  induction r generalizing s with
  | done world requests result => cases result <;> exact ⟨le_rfl, hnow⟩
  | sleep world requests duration resume ih =>
    rw [Activity.follow]
    obtain ⟨t, hw, ht, hds⟩ | ⟨k, t, hw, ht, -, hk⟩ := wake_cases duration hnow
    · have hle : s.now ≤ t := by rw [ht]; exact le_add_of_nonneg_right (le_max_left ..)
      simp only [hw]
      obtain ⟨hlater, hend⟩ := ih t (s := ⟨world, t, s.control.receiveAll requests⟩) hds
      exact ⟨hle.trans hlater, hend⟩
    · simp only [hw]
      exact ⟨ht.le, hk⟩

theorem call (f : Host W Rat → Call W Rat α) : Timely (Activity.call f : Activity W Rat P α) :=
  fun h _ s _ hnow => follow (f h s.now s.world) hnow

theorem bind {f : α → Activity W Rat P β} (hx : Timely x) (hf : ∀ a, Timely (f a)) :
    Timely (x >>= f) := by
  intro h ds s p hnow
  obtain ⟨hle, hend⟩ := hx h ds s p hnow
  obtain ⟨a, s', p', hr⟩ | ⟨e, s', p', hr⟩ := ends x h ds s p
  · rw [hr] at hle hend
    rw [bind_done hr]
    obtain ⟨hle', hend'⟩ := hf a h ds s' p' hend
    exact ⟨hle.trans hle', hend'⟩
  · rw [hr] at hle hend
    rw [bind_halt hr]
    exact ⟨hle, hend.halt⟩

theorem sleep (d : Rat) : Timely (Activity.sleep d : Activity W Rat P Unit) := by
  intro h ds s p hnow
  obtain ⟨s', hs, ht, hds⟩ | ⟨k, s', hs, ht, hk⟩ := sleep_cases (p := p) h d hnow
  · rw [hs]
    refine ⟨?_, hds⟩
    rw [ht]
    exact le_add_of_nonneg_right (le_max_left ..)
  · rw [hs]
    exact ⟨ht.le, hk⟩

theorem attempt (hx : Timely x) : Timely x.attempt := by
  intro h ds s p hnow
  have hend := hx h ds s p hnow
  rcases hr : x h ds s p with ⟨a | f | k | _, s', p'⟩ <;> rw [hr] at hend
  · rw [attempt_done hr]
    exact hend
  · rw [attempt_failed hr]
    exact hend
  · rw [attempt_expired hr]
    exact hend
  · exact hend.2.elim

theorem ensuring (hx : Timely x) (f : P → P) : Timely (x.ensuring f) :=
  fun h ds s p hnow => hx h ds s p hnow

theorem lift {x : Errand W Rat α} (hx : Timely x) : Timely (x.lift : Activity W Rat P α) :=
  fun h ds s _ hnow => hx h ds s () hnow

end Timely

/-! ## Scopes -/

/-- The moment by which a scope with this budget is over that is entered now, none when it has all
the time. -/
def deadline? (seconds : Float) (now : Rat) : Option Rat :=
  (Clock.ofSeconds seconds).map fun d => max now (now + d)

/-- The deadlines inside a scope are those around it and then its own, which is ahead. -/
theorem budget?_eq_some {seconds : Float} {ds inner : List Rat} {now : Rat}
    (hb : budget? seconds ds now = some inner) :
    inner = ds ++ (deadline? seconds now).toList ∧ ∀ d ∈ deadline? seconds now, now < d := by
  unfold budget? at hb
  unfold deadline?
  cases hd : Clock.ofSeconds (T := Rat) seconds with
  | none =>
    rw [hd] at hb
    cases hb
    exact ⟨(List.append_nil _).symm, nofun⟩
  | some d =>
    rw [hd] at hb
    simp only [Clock.le_iff, Clock.zero_eq, Clock.add_eq] at hb
    by_cases hle : d ≤ 0
    · rw [if_pos hle] at hb
      cases hb
    · rw [if_neg hle] at hb
      cases hb
      have hlt : now < now + d := lt_add_of_pos_right now (not_le.1 hle)
      rw [Option.map_some, max_eq_right hlt.le]
      exact ⟨rfl, fun e he => Option.mem_some.1 he ▸ hlt⟩

theorem budget?_eq_none {seconds : Float} {ds : List Rat} {now : Rat}
    (hb : budget? seconds ds now = none) : deadline? seconds now = some now := by
  unfold budget? at hb
  unfold deadline?
  cases hd : Clock.ofSeconds (T := Rat) seconds with
  | none =>
    rw [hd] at hb
    cases hb
  | some d =>
    rw [hd] at hb
    simp only [Clock.le_iff, Clock.zero_eq] at hb
    by_cases hle : d ≤ 0
    · rw [Option.map_some, max_eq_left (add_le_of_nonpos_right hle)]
    · rw [if_neg hle] at hb
      cases hb

theorem budget?_before {seconds : Float} {ds inner : List Rat} {now : Rat}
    (hb : budget? seconds ds now = some inner) (hnow : Before now ds) : Before now inner := by
  obtain ⟨rfl, hlt⟩ := budget?_eq_some hb
  exact List.forall_mem_append.2 ⟨hnow, fun d hd => hlt d (Option.mem_toList.1 hd)⟩

/-- A deadline of the scope itself is the innermost, so when it passes first all others are still
ahead. -/
theorem InTime.capped {seconds : Float} {ds inner : List Rat} {now t : Rat} {late : Fault}
    {o : Outcome α} (hb : budget? seconds ds now = some inner) (ht : InTime inner t o) :
    InTime ds t (capped ds.length late o) := by
  have hkept (j : Nat) (hj : j < ds.length) : inner[j]? = ds[j]? := by
    rw [(budget?_eq_some hb).1]
    exact List.getElem?_append_left hj
  have hsub (d : Rat) (hd : d ∈ ds) : d ∈ inner := by
    rw [(budget?_eq_some hb).1]
    exact List.mem_append_left _ hd
  cases o with
  | done a => exact fun d hd => ht d (hsub d hd)
  | failed f =>
    have hahead : Before t ds := fun d hd => ht d (hsub d hd)
    have hfailed : ∃ f', Activity.capped ds.length late (.failed f : Outcome α) = .failed f' := by
      by_cases hf : f.kind = .asyncTimeout
      · exact ⟨late, if_pos hf⟩
      · exact ⟨f, if_neg hf⟩
    obtain ⟨f', hf'⟩ := hfailed
    rw [hf']
    exact hahead
  | expired k =>
    by_cases hk : k = ds.length
    · have hfailed : Activity.capped ds.length late (.expired k : Outcome α) = .failed late :=
        if_pos hk
      rw [hfailed]
      intro d hd
      obtain ⟨j, hj, rfl⟩ := List.mem_iff_getElem.1 hd
      refine ht.outermost j (hk ▸ hj) _ ?_
      rw [hkept j hj, List.getElem?_eq_getElem hj]
    · have hexpired : Activity.capped ds.length late (.expired k : Outcome α) = .expired k :=
        if_neg hk
      have hlt : k < ds.length := by
        have hlen := budget?_length_le hb
        have hin := (List.getElem?_eq_some_iff.1 ht.own).1
        omega
      rw [hexpired]
      exact {
        own := (hkept k hlt).symm.trans ht.own
        first := fun d hd => ht.first d (hsub d hd)
        outermost := fun j hj d hd =>
          ht.outermost j hj d ((hkept j (hj.trans hlt)).trans hd) }
  | endless => exact ht

theorem Timely.within {x : Activity W Rat P α} (hx : Timely x) (seconds : Float) (late : Fault) :
    Timely (Activity.within seconds late x) := by
  intro h ds s p hnow
  cases hb : budget? seconds ds (yielded h s).now with
  | none =>
    rw [within_of_none hb]
    exact ⟨le_rfl, hnow⟩
  | some inner =>
    obtain ⟨hle, hend⟩ := hx h inner (yielded h s) p (budget?_before hb hnow)
    rw [within_of_some hb]
    exact ⟨hle, hend.capped hb⟩

/-- A scope is over by its deadline. -/
theorem Timely.within_le {x : Activity W Rat P α} (hx : Timely x) {seconds : Float} (late : Fault)
    {h : Host W Rat} {ds : List Rat} {s : Scene W Rat} {p : P} (hnow : Before s.now ds) {d : Rat}
    (hd : d ∈ deadline? seconds s.now) :
    (Activity.within seconds late x h ds s p).2.1.now ≤ d := by
  cases hb : budget? seconds ds (yielded h s).now with
  | none =>
    rw [within_of_none hb]
    have hover : deadline? seconds s.now = some s.now := budget?_eq_none hb
    rw [hover] at hd
    exact (Option.mem_some.1 hd).le
  | some inner =>
    rw [within_of_some hb]
    obtain ⟨-, hend⟩ := hx h inner (yielded h s) p (budget?_before hb hnow)
    refine hend.le ?_
    rw [(budget?_eq_some hb).1]
    exact List.mem_append_right _ (Option.mem_toList.2 hd)

/-- A scope that cuts off what it holds does so at its deadline. -/
theorem Timely.deadline?_of_cutOff {x : Activity W Rat P α} (hx : Timely x) {seconds : Float}
    {h : Host W Rat} {ds : List Rat} {s s' : Scene W Rat} {p p' : P} (hnow : Before s.now ds)
    (hc : CutOff seconds x h ds s p s' p') : deadline? seconds s.now = some s'.now := by
  unfold CutOff at hc
  cases hb : budget? seconds ds (yielded h s).now with
  | none =>
    rw [hb] at hc
    obtain ⟨rfl, -⟩ := hc
    exact budget?_eq_none hb
  | some inner =>
    rw [hb] at hc
    obtain ⟨-, hend⟩ := hx h inner (yielded h s) p (budget?_before hb hnow)
    rw [hc] at hend
    have hown := hend.own
    rw [(budget?_eq_some hb).1, List.getElem?_append_right le_rfl, Nat.sub_self] at hown
    cases hd : deadline? seconds (yielded h s).now with
    | none =>
      rw [hd] at hown
      cases hown
    | some d =>
      rw [hd] at hown
      cases hown
      exact hd

/-- However timely activities are put together, they are timely. -/
theorem Timely.closed : Closed True True fun _ _ (x _ : Activity W Rat _ _) => Timely x where
  pure a := .instant fun _ _ _ _ => ⟨rfl, .inl ⟨a, rfl⟩⟩
  fail f := .instant fun _ _ _ _ => ⟨rfl, .inr ⟨f, rfl⟩⟩
  get := .instant fun _ _ _ p => ⟨rfl, .inl ⟨p, rfl⟩⟩
  modify _ := .instant fun _ _ _ _ => ⟨rfl, .inl ⟨(), rfl⟩⟩
  now := .instant fun _ _ s _ => ⟨rfl, .inl ⟨s.now, rfl⟩⟩
  sleep := .sleep
  call q _ _ := .call q.ask
  bind := .bind
  attempt := .attempt
  lift := .lift
  within seconds late hx := hx.within seconds late

end Activity

/-! ## Waits for elements -/

namespace ElementWait
open Activity

theorem least_eq (s t : Rat) : Clock.least s t = min s t := by
  unfold Clock.least
  by_cases hle : s ≤ t
  · rw [if_neg (by simp [Clock.le_iff, hle]), min_eq_left hle]
  · have hlt := not_le.1 hle
    rw [if_pos (by simp [Clock.le_iff, hlt.le, Bool.eq_false_iff, hlt]), min_eq_right hlt.le]

/-- Polls end in time when `n` intervals reach the end of the wait and more than `n` polls are
left. -/
theorem pollFrom_inTime {tab : TabRef} {selector : String} {start stop interval : Rat}
    (hi : 0 < interval) (polls : Nat) {fuel n : Nat} (hn : n < fuel) {h : Host W Rat}
    {ds : List Rat}
    {s : Scene W Rat} {p : P} (hnow : Before s.now ds) (hstop : stop ≤ s.now + n * interval) :
    let r := pollFrom tab selector start stop interval polls fuel h ds s p
    s.now ≤ r.2.1.now ∧ InTime ds r.2.1.now r.1 := by
  -- each sleep takes a whole interval, or it lasts to the end of the wait
  induction fuel generalizing polls n s p with
  | zero => exact absurd hn (Nat.not_lt_zero n)
  | succ fuel ih =>
    have hcheck : Timely (check tab selector : Activity W Rat P Bool) :=
      Timely.closed.check tab selector
    obtain ⟨hle, hend⟩ := hcheck h ds s p hnow
    rw [pollFrom]
    obtain ⟨found, s', p', hr⟩ | ⟨e, s', p', hr⟩ := ends (check tab selector) h ds s p
    · rw [hr] at hle hend
      rw [bind_done hr, now_bind]
      by_cases hf : found = true
      · rw [if_pos hf]
        exact ⟨hle, hend⟩
      rw [if_neg hf]
      simp only [Clock.sub_eq, Clock.zero_eq, Clock.le_iff, least_eq]
      by_cases hleft : stop - s'.now ≤ 0
      · rw [if_pos hleft]
        exact ⟨hle, hend⟩
      rw [if_neg hleft]
      have hlater : s.now ≤ s'.now := hle
      obtain ⟨s₁, hs, ht, hds⟩ | ⟨k, s₁, hs, ht, hk⟩ :=
        sleep_cases (p := p') h (min interval (stop - s'.now)) hend
      · rw [max_eq_right (le_min hi.le (le_of_not_ge hleft))] at ht
        rw [bind_done hs]
        cases n with
        | zero =>
          rw [Nat.cast_zero, zero_mul, add_zero] at hstop
          exact absurd (sub_nonpos.2 (hstop.trans hlater)) hleft
        | succ n =>
          have hpos : 0 ≤ (n : Rat) * interval := mul_nonneg (Nat.cast_nonneg n) hi.le
          have hnext : stop ≤ s₁.now + n * interval := by
            rw [Nat.cast_succ, add_mul, one_mul] at hstop
            obtain hmin | hmin := min_choice interval (stop - s'.now) <;>
              rw [hmin] at ht <;> linarith
          obtain ⟨hle', hend'⟩ := ih (polls + 1) (p := p') (Nat.lt_of_succ_lt_succ hn) hds hnext
          have hslept : s'.now ≤ s₁.now := by
            rw [ht]
            exact le_add_of_nonneg_right (le_min hi.le (le_of_not_ge hleft))
          exact ⟨(hlater.trans hslept).trans hle', hend'⟩
      · have hcut :
          (Activity.sleep (min interval (stop - s'.now)) : Activity W Rat P Unit) h ds s' p' =
            (Halt.outcome (.expired k), s₁, p') := hs
        rw [bind_halt hcut]
        exact ⟨hlater.trans ht.le, hk⟩
    · rw [hr] at hle hend
      rw [bind_halt hr]
      exact ⟨hle, hend.halt⟩

/-- The timeout is less than one interval more than a whole number of them. -/
theorem timeoutMs_le (timeoutMs : Int) {pollMs : Int} (hp : 1 ≤ pollMs) :
    timeoutMs ≤ ((timeoutMs.toNat / pollMs.toNat + 1 : Nat) : Int) * pollMs := by
  have hlt := Nat.lt_mul_div_succ timeoutMs.toNat (b := pollMs.toNat) (by omega)
  have hcast : ((pollMs.toNat * (timeoutMs.toNat / pollMs.toNat + 1) : Nat) : Int) =
      ((timeoutMs.toNat / pollMs.toNat + 1 : Nat) : Int) * pollMs := by
    rw [Nat.cast_mul, Int.toNat_of_nonneg (by omega), mul_comm]
  omega

theorem lt_pollBound (timeoutMs : Int) {pollMs : Int} (hp : 1 ≤ pollMs) :
    timeoutMs.toNat / pollMs.toNat + 1 < pollBound timeoutMs pollMs := by
  have hmax : max 1 pollMs.toNat = pollMs.toNat := by omega
  rw [pollBound, hmax]
  omega

/-- The bound on the polls of a wait is never used up. -/
theorem require_timely (tab : TabRef) (selector : String) (timeoutMs : Int) {pollMs : Int}
    (hp : 1 ≤ pollMs) :
    Timely (require tab selector timeoutMs pollMs : Activity W Rat P WaitReport) := by
  have hinterval : 0 < mkRat pollMs 1000 := by
    rw [Rat.mkRat_eq_div]
    have hpos : (0 : Rat) < pollMs := Int.cast_pos.2 hp
    exact div_pos hpos (by norm_num)
  have run : Timely (run tab selector timeoutMs pollMs : Activity W Rat P WaitReport) := by
    intro h ds s p hnow
    refine pollFrom_inTime hinterval 0 (lt_pollBound timeoutMs hp) hnow (add_le_add le_rfl ?_)
    rw [Rat.mkRat_eq_div, Rat.mkRat_eq_div, ← mul_div_assoc]
    have hrat : (timeoutMs : Rat) ≤
        ((timeoutMs.toNat / pollMs.toNat + 1 : Nat) : Rat) * pollMs := by
      have hcast := (Int.cast_le (R := Rat)).2 (timeoutMs_le timeoutMs hp)
      rwa [Int.cast_mul, Int.cast_natCast] at hcast
    exact div_le_div_of_nonneg_right hrat (by norm_num)
  refine run.bind fun report => ?_
  split
  · exact (Timely.closed.ofExcept _).bind fun _ => Timely.closed.fail _
  · exact Timely.closed.pure _

end ElementWait

/-- Everything that blocks are made of is timely when waits for elements pause at all. -/
theorem Activity.Timely.composed {pollMs : Int} (hp : 1 ≤ pollMs) :
    Composed True True pollMs fun _ _ (x _ : Activity W Rat _ _) => Timely x where
  toClosed := Timely.closed
  require tab selector timeoutMs := ElementWait.require_timely tab selector timeoutMs hp

end BrowserFlow
