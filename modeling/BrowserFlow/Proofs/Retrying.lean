import BrowserFlow.Proofs.Dispatching
import Mathlib.Data.ENat.Lattice

/-!
How often an operation is tried. An attempt is the last one when its outcome is not worth another,
or when none is left; what the last attempt comes to is what the whole comes to, and between two
attempts there is the pause that the policy asks for.

* `RetryPolicy.Settles`, `RetryPolicy.firstSettled`: where a sequence of outcomes settles.
* `RetryPolicy.Attempts`: an operation with a sequence of outcomes, which records its attempts.
* `RetryPolicy.Spaced`: attempts with the pauses of a policy between them.
* `RetryPolicy.runFrom_eq`: after each attempt the policy says whether another one should follow.
* `RetryPolicy.run_attempts`: how many attempts there are, when, and what comes of them.
-/
namespace BrowserFlow.RetryPolicy
set_option autoImplicit false

open Activity

variable {W T P α : Type} {r : RetryPolicy}

/-! ## Where outcomes settle -/

/-- No attempt follows one that ends like this, even if there are some left. -/
inductive Settles (r : RetryPolicy) : Outcome α → Prop
  | done (a : α) : Settles r (.done a)
  | excluded {f : Fault} {k : FaultKind} : k ∈ r.nonRetryable → f.isA k = true →
      Settles r (.failed f)
  | unlisted {f : Fault} : (∀ k ∈ r.retryable, f.isA k = false) → Settles r (.failed f)
  | expired (depth : Nat) : Settles r (.expired depth)
  | endless : Settles r .endless

theorem settles_failed {f : Fault} :
    r.Settles (.failed f : Outcome α) ↔ r.covers f = false := by
  have hcovers : r.covers f = false ↔
      (∃ k ∈ r.nonRetryable, f.isA k = true) ∨ ∀ k ∈ r.retryable, f.isA k = false := by
    simp [covers, or_iff_not_imp_left]
  rw [hcovers]
  constructor
  · rintro (_ | ⟨hk, hf⟩ | hnone)
    · exact .inl ⟨_, hk, hf⟩
    · exact .inr hnone
  · rintro (⟨k, hk, hf⟩ | hnone)
    · exact .excluded hk hf
    · exact .unlisted hnone

instance (o : Outcome α) : Decidable (r.Settles o) :=
  match o with
  | .done a => isTrue (.done a)
  | .failed _ => decidable_of_iff _ settles_failed.symm
  | .expired k => isTrue (.expired k)
  | .endless => isTrue .endless

noncomputable def firstSettled (r : RetryPolicy) (outcomes : Nat → Outcome α) : ℕ∞ :=
  ⨅ k, ⨅ _ : r.Settles (outcomes k), (k : ℕ∞)

/-- With so many attempts left beyond the first, the one with number `n` is the last. -/
structure StopsAt (r : RetryPolicy) (outcomes : Nat → Outcome α) (left n : Nat) : Prop where
  bounded : n ≤ left
  going : ∀ k < n, ¬ r.Settles (outcomes k)
  settled : n < left → r.Settles (outcomes n)

namespace StopsAt

variable {outcomes : Nat → Outcome α} {left n : Nat}

theorem eq_min (hn : r.StopsAt outcomes left n) :
    (n : ℕ∞) = min (r.firstSettled outcomes) left := by
  apply le_antisymm
  · refine le_min (le_iInf₂ fun k hk => ?_) (Nat.cast_le.2 hn.bounded)
    have hle : n ≤ k := not_lt.1 fun hlt => hn.going k hlt hk
    exact Nat.cast_le.2 hle
  · obtain hlt | rfl := hn.bounded.lt_or_eq
    · have hsettled : r.firstSettled outcomes ≤ n := iInf₂_le n (hn.settled hlt)
      exact (min_le_left ..).trans hsettled
    · exact min_le_right ..

theorem zero (hn : 0 < left → r.Settles (outcomes 0)) : r.StopsAt outcomes left 0 where
  bounded := Nat.zero_le left
  going := nofun
  settled := hn

theorem succ (hfirst : ¬ r.Settles (outcomes 0))
    (hn : r.StopsAt (fun k => outcomes (k + 1)) left n) :
    r.StopsAt outcomes (left + 1) (n + 1) where
  bounded := Nat.succ_le_succ hn.bounded
  going := by
    rintro (_ | k) hk
    · exact hfirst
    · exact hn.going k (Nat.lt_of_succ_lt_succ hk)
  settled hlt := hn.settled (Nat.lt_of_succ_lt_succ hlt)

end StopsAt

/-! ## Attempts and pauses -/

/-- An operation with these outcomes, one after another, whose state holds when its attempts began
and when they were over. -/
structure Attempts (x : Activity W T P α) (h : Host W T) (outcomes : Nat → Outcome α)
    (log : P → List (T × T)) : Prop where
  ends : ∀ s p, (x h [] s p).1 = outcomes (log p).length
  notes : ∀ s p, log (x h [] s p).2.2 = log p ++ [(s.now, (x h [] s p).2.1.now)]

section Runs

variable [Clock T]

/-- When an attempt begins that follows one which was over at `t`. -/
def resumption (r : RetryPolicy) (t : T) : Except Fault T :=
  if 0 < r.delayMs then
    (Clock.ofMillis r.delayMs).map fun d => if Clock.le d Clock.zero then t else Clock.add t d
  else .ok t

theorem resumption_exact (r : RetryPolicy) (t : Rat) :
    r.resumption t = .ok (t + max 0 r.delayMs / 1000) := by
  unfold resumption
  by_cases hpos : 0 < r.delayMs
  · have hlong : ¬ Clock.le ((r.delayMs : Rat) / 1000) Clock.zero = true :=
      mt Clock.millis_le_zero.1 (not_le.2 hpos)
    rw [if_pos hpos, Clock.ofMillis_eq, max_eq_right hpos.le, Except.map, if_neg hlong,
      Clock.add_eq]
  · rw [if_neg hpos, max_eq_left (not_lt.1 hpos), Int.cast_zero, zero_div, add_zero]

/-- Attempts from `start` to `stop`, each but the first when the pause after the one before is
over. -/
inductive Spaced (r : RetryPolicy) : T → List (T × T) → T → Prop
  | last {start stop : T} : Spaced r start [(start, stop)] stop
  | next {start ended again stop : T} {spans : List (T × T)} : r.resumption ended = .ok again →
      Spaced r again spans stop → Spaced r start ((start, ended) :: spans) stop

variable {h : Host W T} {ds : List T} {s s' : Scene W T} {p p' : P} {x : Activity W T P α}

theorem pause_done {t : T} (ht : r.resumption s.now = .ok t) :
    ∃ s', r.pause h [] s p = (.done (), s', p) ∧ s'.now = t := by
  unfold resumption at ht
  unfold pause
  split at ht
  · cases hd : (Clock.ofMillis r.delayMs : Except Fault T) with
    | error f =>
      rw [hd] at ht
      cases ht
    | ok d =>
      rw [hd] at ht
      obtain rfl := Except.ok.inj ht
      refine ⟨{ yielded h s with
        now := if Clock.le d Clock.zero then s.now else Clock.add s.now d }, ?_, rfl⟩
      rw [if_pos ‹_›, ofExcept_ok, pure_bind, sleep_apply, wake_nil]
  · cases ht
    exact ⟨s, by rw [if_neg ‹_›]; rfl, rfl⟩

theorem pause_failed {f : Fault} (hf : r.resumption s.now = .error f) :
    r.pause h [] s p = (.failed f, s, p) := by
  unfold resumption at hf
  unfold pause
  split at hf
  · cases hd : (Clock.ofMillis r.delayMs : Except Fault T) with
    | error e =>
      rw [hd] at hf
      cases hf
      rw [if_pos ‹_›]
      rfl
    | ok d =>
      rw [hd] at hf
      cases hf
  · cases hf

/-- Another attempt follows when there is one left and the fault is worth it. -/
theorem shouldRetry_eq (f : Fault) {left attempt : Nat}
    (hleft : attempt + left = r.maxRetries.toNat) :
    r.shouldRetry f attempt = (decide (0 < left) && r.covers f) := by
  have hbudget : (attempt : Int) < r.maxRetries ↔ 0 < left := by omega
  rw [shouldRetry, decide_eq_decide.2 hbudget]

/-- Counting the attempts that are left comes to the same as asking, with the number of the attempt
at hand, whether another one should follow. -/
theorem runFrom_eq (x : Activity W T P α) {left attempt : Nat}
    (hleft : attempt + left = r.maxRetries.toNat) :
    r.runFrom x left = x.attempt >>= fun
      | .ok a => pure a
      | .error f =>
        if r.shouldRetry f attempt then
          r.pause >>= fun _ => r.runFrom x (left - 1) else fail f := by
  simp only [shouldRetry_eq _ hleft]
  cases left with
  | succ left =>
    rw [runFrom]
    congr 1
  | zero =>
    -- a last attempt is not looked at, so it ends as it would by itself
    funext h ds s p
    rcases hx : x h ds s p with ⟨a | f | k | _, s', p'⟩
    · rw [bind_done (attempt_done hx)]
      exact hx
    · rw [bind_done (attempt_failed hx)]
      exact hx
    · exact hx.trans (bind_halt (e := .expired k) (attempt_expired hx)).symm
    · exact hx.trans (bind_halt (e := .endless) (attempt_endless hx)).symm

theorem runFrom_settled {o : Outcome α} (hx : x h ds s p = (o, s', p')) (ho : r.Settles o)
    (left : Nat) : r.runFrom x left h ds s p = (o, s', p') := by
  cases left with
  | zero => exact hx
  | succ left =>
    rw [runFrom]
    cases o with
    | done a =>
      rw [bind_done (attempt_done hx)]
      rfl
    | failed f =>
      have hcovers : r.covers f = false := settles_failed.1 ho
      rw [bind_done (attempt_failed hx)]
      simp only [hcovers, Bool.false_eq_true, if_false]
      rfl
    | expired k => exact bind_halt (e := .expired k) (attempt_expired hx)
    | endless => exact bind_halt (e := .endless) (attempt_endless hx)

theorem runFrom_again {f : Fault} (hx : x h ds s p = (.failed f, s', p'))
    (hf : r.covers f = true) (left : Nat) :
    r.runFrom x (left + 1) h ds s p = (r.pause >>= fun _ => r.runFrom x left) h ds s' p' := by
  rw [runFrom, bind_done (attempt_failed hx)]
  simp only [hf, if_true]

theorem not_settles {o : Outcome α} (ho : ¬ r.Settles o) :
    ∃ f, o = .failed f ∧ r.covers f = true := by
  cases o with
  | done a => exact absurd (.done a) ho
  | failed f => exact ⟨f, rfl, by simpa [settles_failed] using ho⟩
  | expired k => exact absurd (.expired k) ho
  | endless => exact absurd .endless ho

variable {outcomes : Nat → Outcome α} {log : P → List (T × T)}

omit [Clock T] in
theorem Attempts.attempted (hx : Attempts x h outcomes log) {o : Outcome α}
    (hrun : x h [] s p = (o, s', p')) :
    o = outcomes (log p).length ∧ log p' = log p ++ [(s.now, s'.now)] := by
  have hends := hx.ends s p
  have hnotes := hx.notes s p
  rw [hrun] at hends hnotes
  exact ⟨hends, hnotes⟩

theorem Attempts.runFrom (hx : Attempts x h outcomes log)
    (hpause : ∀ t : T, ∃ t', r.resumption t = .ok t') (left : Nat) (s : Scene W T) (p : P) :
    ∃ n spans s' p', r.runFrom x left h [] s p = (outcomes ((log p).length + n), s', p') ∧
      log p' = log p ++ spans ∧ spans.length = n + 1 ∧ r.Spaced s.now spans s'.now ∧
      r.StopsAt (fun k => outcomes ((log p).length + k)) left n := by
  -- on the attempts left; the attempts after the first are those of the shifted outcomes
  induction left generalizing s p with
  | zero =>
    rcases hrun : x h [] s p with ⟨o, s', p'⟩
    obtain ⟨hends, hnotes⟩ := hx.attempted hrun
    refine ⟨0, [(s.now, s'.now)], s', p', ?_, hnotes, rfl, .last, .zero nofun⟩
    rw [RetryPolicy.runFrom, hrun, hends, Nat.add_zero]
  | succ left ih =>
    rcases hrun : x h [] s p with ⟨o, s₁, p₁⟩
    obtain ⟨hends, hnotes⟩ := hx.attempted hrun
    by_cases ho : r.Settles o
    · refine ⟨0, [(s.now, s₁.now)], s₁, p₁, ?_, hnotes, rfl, .last, .zero fun _ => ?_⟩
      · rw [runFrom_settled hrun ho, hends, Nat.add_zero]
      · rwa [hends] at ho
    · obtain ⟨f, hf, hcovers⟩ := not_settles ho
      obtain ⟨t, ht⟩ := hpause s₁.now
      obtain ⟨s₂, hslept, hnow⟩ := pause_done (h := h) (p := p₁) ht
      obtain ⟨n, spans, s', p', hrest, hlog, hlength, hspaced, hstops⟩ := ih s₂ p₁
      have hone : (log p₁).length = (log p).length + 1 := by simp [hnotes]
      rw [hone] at hrest hstops
      rw [hf] at hrun
      refine ⟨n + 1, (s.now, s₁.now) :: spans, s', p', ?_, ?_, ?_, ?_, ?_⟩
      · rw [runFrom_again hrun hcovers, bind_done hslept, hrest, Nat.add_right_comm, Nat.add_assoc]
      · rw [hlog, hnotes, List.append_assoc, List.singleton_append]
      · rw [List.length_cons, hlength]
      · rw [hnow] at hspaced
        exact .next ht hspaced
      · have hshift : (fun k => outcomes ((log p).length + 1 + k)) =
            fun k => outcomes ((log p).length + (k + 1)) := by
          funext k
          rw [Nat.add_assoc, Nat.add_comm 1 k]
        rw [hshift] at hstops
        exact .succ (by rwa [Nat.add_zero, ← hends]) hstops

/-- A pause that cannot be measured is a fault in place of the next attempt. -/
theorem Attempts.run_unmeasured (hx : Attempts x h outcomes log) {f : Fault}
    (hpause : ∀ t : T, r.resumption t = .error f) (s : Scene W T) (p : P) :
    let run := r.run x h [] s p
    let first := outcomes (log p).length
    (log run.2.2).length = (log p).length + 1 ∧
      run.1 = if r.maxRetries.toNat = 0 ∨ r.Settles first then first else .failed f := by
  intro run first
  rcases hrun : x h [] s p with ⟨o, s', p'⟩
  obtain ⟨hends, hnotes⟩ : o = first ∧ log p' = log p ++ [(s.now, s'.now)] := hx.attempted hrun
  have hlength : (log p').length = (log p).length + 1 := by simp [hnotes]
  by_cases ho : r.Settles o
  · have hwhole : run = (o, s', p') := runFrom_settled hrun ho _
    rw [hwhole, ← hends, if_pos (.inr ho)]
    exact ⟨hlength, rfl⟩
  · cases hbudget : r.maxRetries.toNat with
    | zero =>
      have hwhole : run = (o, s', p') := by
        simp only [run, RetryPolicy.run, hbudget]
        exact hrun
      rw [hwhole, ← hends, if_pos (.inl rfl)]
      exact ⟨hlength, rfl⟩
    | succ left =>
      obtain ⟨e, he, hcovers⟩ := not_settles ho
      have hfailed := pause_failed (h := h) (p := p') (hpause s'.now)
      have hwhole : run = (.failed f, s', p') := by
        rw [he] at hrun
        simp only [run, RetryPolicy.run, hbudget]
        rw [runFrom_again hrun hcovers, bind_halt (e := .failed f) hfailed]
        rfl
      rw [hwhole, ← hends, if_neg (by simp [ho])]
      exact ⟨hlength, rfl⟩

/-- An operation is tried until its outcome settles it or no attempt is left, with a pause between
two attempts, and ends as its last attempt does. Where the pause cannot be measured, it is not tried
again. -/
theorem run_attempts (r : RetryPolicy) (hx : Attempts x h outcomes log) (s : Scene W T)
    (hp : log p = []) :
    let run := r.run x h [] s p
    let budget := r.maxRetries.toNat
    (∀ t : Rat, r.resumption t = .ok (t + max 0 r.delayMs / 1000)) ∧
    ((0 < r.delayMs → ∃ d : T, Clock.ofMillis r.delayMs = .ok d) →
      ∃ n : Nat, (n : ℕ∞) = min (r.firstSettled outcomes) budget ∧ run.1 = outcomes n ∧
        (log run.2.2).length = n + 1 ∧ r.Spaced s.now (log run.2.2) run.2.1.now) ∧
    (∀ f, 0 < r.delayMs → (Clock.ofMillis r.delayMs : Except Fault T) = .error f →
      (log run.2.2).length = 1 ∧
        run.1 = if budget = 0 ∨ r.Settles (outcomes 0) then outcomes 0 else .failed f) := by
  intro run budget
  have hnone : (log p).length = 0 := List.length_eq_zero_iff.2 hp
  refine ⟨resumption_exact r, fun hfits => ?_, fun f hpos hf => ?_⟩
  · have hpause : ∀ t : T, ∃ t', r.resumption t = .ok t' := by
      intro t
      unfold resumption
      split
      · obtain ⟨d, hd⟩ := hfits ‹_›
        rw [hd]
        exact ⟨_, rfl⟩
      · exact ⟨t, rfl⟩
    obtain ⟨n, spans, s', p', hrun, hlog, hlength, hspaced, hstops⟩ := hx.runFrom hpause budget s p
    rw [hp, List.nil_append] at hlog
    simp only [hnone, Nat.zero_add] at hrun hstops
    have hwhole : run = (outcomes n, s', p') := hrun
    rw [hwhole, hlog]
    exact ⟨n, hstops.eq_min, rfl, hlength, hspaced⟩
  · have hpause : ∀ t : T, r.resumption t = .error f := by
      intro t
      rw [resumption, if_pos hpos, hf]
      rfl
    simpa only [hnone, Nat.zero_add] using hx.run_unmeasured hpause s p

end Runs

/-! ## An operation that recovers -/

/-- The page cannot be reached so many times, and then it can. -/
def recovering (failures k : Nat) : Outcome Nat :=
  if k < failures then .failed (.scriptBroken (.number 1) "busy") else .done k

def numbered (outcomes : Nat → Outcome α) : Activity W T (List (T × T)) α :=
  fun _ _ s spans => (outcomes spans.length, s, spans ++ [(s.now, s.now)])

theorem numbered_attempts (h : Host W T) (outcomes : Nat → Outcome α) :
    Attempts (numbered outcomes) h outcomes id where
  ends _ _ := rfl
  notes _ _ := rfl

theorem run_attempts_recovering :
    Attempts (numbered (recovering 2)) (Dispatch.scripted (T := Rat)) (recovering 2) id ∧
      id ([] : List (Rat × Rat)) = [] ∧
      ∃ n : Nat, (n : ℕ∞) = min (({} : RetryPolicy).firstSettled (recovering 2)) (2 : Nat) ∧
        (({} : RetryPolicy).run (numbered (recovering 2)) Dispatch.scripted []
          (Dispatch.answering []) ([] : List (Rat × Rat))).1 = recovering 2 n := by
  have hx := numbered_attempts (Dispatch.scripted (T := Rat)) (recovering 2)
  obtain ⟨-, hrun, -⟩ := run_attempts {} hx (Dispatch.answering []) (p := []) rfl
  obtain ⟨n, hn, hend, -⟩ := hrun fun _ => ⟨_, rfl⟩
  exact ⟨hx, rfl, n, hn, hend⟩

/-- Three attempts, half a second apart. -/
example : (({} : RetryPolicy).run (numbered (recovering 2)) Dispatch.scripted []
    (Dispatch.answering []) ([] : List (Rat × Rat))).2.2 = [(0, 0), (1 / 2, 1 / 2), (1, 1)] := by
  decide +kernel

/-- Before a pause of more milliseconds than any double holds the operation is given up. -/
theorem not_always_tried_again :
    ¬ ∀ (r : RetryPolicy) (outcomes : Nat → Outcome Nat)
      (x : Activity (List (Except Fault (Option PageResult))) Float (List (Float × Float)) Nat),
      Attempts x Dispatch.scripted outcomes id →
      ∃ n : Nat, (n : ℕ∞) = min (r.firstSettled outcomes) r.maxRetries.toNat ∧
        (r.run x Dispatch.scripted [] (Dispatch.answering []) []).1 = outcomes n := by
  intro hall
  obtain ⟨n, -, hend⟩ := hall { maxRetries := 1, delayMs := 10 ^ 400 } (recovering 1)
    (numbered (recovering 1)) (numbered_attempts _ _)
  have hgiven : (({ maxRetries := 1, delayMs := 10 ^ 400 } : RetryPolicy).run
      (numbered (recovering 1)) Dispatch.scripted [] (Dispatch.answering [])
      ([] : List (Float × Float))).1 = .failed .intTooLarge := by
    decide +kernel
  rw [hgiven] at hend
  unfold recovering at hend
  split at hend <;> cases hend

end BrowserFlow.RetryPolicy
