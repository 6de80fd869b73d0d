import BrowserFlow.Proofs.Dispatching
import Mathlib.Data.Rat.Floor
import Mathlib.Tactic.FieldSimp

/-!
Waits for an element on a page that answers at once, with time counted exactly. The questions of a
wait are due at every interval before its end and at the end itself; it asks them in this order and
stops at the first one that is answered by the element.

* `ElementWait.schedule`: when the questions are due.
* `ElementWait.Watched`: a page with a history of answers, and a record of when it was asked.
* `ElementWait.Conducted`: the questions that are asked, and what comes of them.
* `ElementWait.run_conducted`: every wait is conducted in this way.
-/
namespace BrowserFlow.ElementWait
set_option autoImplicit false

open Activity

variable {W P : Type}

/-! ## When questions are due -/

/-- The intervals of a wait, the last one perhaps cut short. -/
def intervals (timeoutMs pollMs : Int) : Nat := ⌈(timeoutMs : Rat) / pollMs⌉.toNat

/-- When the question with this number is due, in milliseconds from the start. -/
def dueAt (timeoutMs pollMs : Int) (k : Nat) : Int := min (k * pollMs) (max 0 timeoutMs)

def schedule (timeoutMs pollMs : Int) : List Int :=
  (List.range (intervals timeoutMs pollMs + 1)).map (dueAt timeoutMs pollMs)

section Schedule

variable {timeoutMs pollMs : Int} {k : Nat}

theorem dueAt_zero : dueAt timeoutMs pollMs 0 = 0 := by simp [dueAt]

theorem lt_intervals (hpoll : 1 ≤ pollMs) :
    k < intervals timeoutMs pollMs ↔ k * pollMs < timeoutMs := by
  have hpos : (0 : Rat) < pollMs := Int.cast_pos.2 hpoll
  rw [intervals, Int.lt_toNat, Int.lt_ceil, Int.cast_natCast, lt_div_iff₀ hpos]
  exact_mod_cast Iff.rfl

theorem dueAt_of_lt (hpoll : 1 ≤ pollMs) (hk : k < intervals timeoutMs pollMs) :
    dueAt timeoutMs pollMs k = k * pollMs := by
  have hlt := (lt_intervals hpoll).1 hk
  unfold dueAt
  omega

theorem dueAt_intervals (hpoll : 1 ≤ pollMs) :
    dueAt timeoutMs pollMs (intervals timeoutMs pollMs) = max 0 timeoutMs := by
  have hle : ¬ (intervals timeoutMs pollMs : Int) * pollMs < timeoutMs :=
    fun hlt => lt_irrefl _ ((lt_intervals hpoll).2 hlt)
  have hnonneg : 0 ≤ (intervals timeoutMs pollMs : Int) * pollMs :=
    mul_nonneg (Int.natCast_nonneg _) (by omega)
  unfold dueAt
  omega

theorem dueAt_succ (hpoll : 1 ≤ pollMs) (hk : k < intervals timeoutMs pollMs) :
    dueAt timeoutMs pollMs (k + 1) =
      dueAt timeoutMs pollMs k + min pollMs (timeoutMs - dueAt timeoutMs pollMs k) := by
  have hlt := (lt_intervals hpoll).1 hk
  have hnonneg : 0 ≤ (k : Int) * pollMs := mul_nonneg (Int.natCast_nonneg _) (by omega)
  rw [dueAt_of_lt hpoll hk, dueAt, Nat.cast_succ, add_mul, one_mul]
  omega

theorem dueAt_lt_succ (hpoll : 1 ≤ pollMs) (hk : k < intervals timeoutMs pollMs) :
    dueAt timeoutMs pollMs k < dueAt timeoutMs pollMs (k + 1) := by
  have hlt := (lt_intervals hpoll).1 hk
  rw [dueAt_succ hpoll hk, dueAt_of_lt hpoll hk]
  omega

theorem mem_schedule (hpoll : 1 ≤ pollMs) {ms : Int} :
    ms ∈ schedule timeoutMs pollMs ↔
      (∃ k : Nat, ms = k * pollMs ∧ ms < timeoutMs) ∨ ms = max 0 timeoutMs := by
  simp only [schedule, List.mem_map, List.mem_range, Nat.lt_succ_iff_lt_or_eq]
  constructor
  · rintro ⟨k, hk | rfl, rfl⟩
    · rw [dueAt_of_lt hpoll hk]
      exact .inl ⟨k, rfl, (lt_intervals hpoll).1 hk⟩
    · exact .inr (dueAt_intervals hpoll)
  · rintro (⟨k, rfl, hlt⟩ | rfl)
    · have hk := (lt_intervals hpoll).2 hlt
      exact ⟨k, .inl hk, dueAt_of_lt hpoll hk⟩
    · exact ⟨_, .inr rfl, dueAt_intervals hpoll⟩

theorem schedule_ascending (hpoll : 1 ≤ pollMs) :
    (schedule timeoutMs pollMs).Pairwise (· < ·) := by
  rw [schedule, ← List.isChain_iff_pairwise, List.isChain_iff_getElem]
  intro k hk
  simp only [List.length_map, List.length_range] at hk
  simp only [List.getElem_map, List.getElem_range]
  exact dueAt_lt_succ hpoll (by omega)

theorem schedule_length :
    ((schedule timeoutMs pollMs).length : Int) = max 1 (⌈(timeoutMs : Rat) / pollMs⌉ + 1) := by
  rw [schedule, List.length_map, List.length_range, intervals]
  omega

end Schedule

/-! ## Moments -/

/-- The moment so many milliseconds after the start. -/
def moment (start : Rat) (ms : Int) : Rat := start + ms / 1000

theorem moment_zero (start : Rat) : moment start 0 = start := by simp [moment]

theorem moment_le {start : Rat} {m n : Int} : moment start m ≤ moment start n ↔ m ≤ n := by
  unfold moment
  rw [add_le_add_iff_left, div_le_div_iff_of_pos_right (by norm_num), Int.cast_le]

theorem moment_sub (start : Rat) (m n : Int) :
    moment start m - moment start n = ((m - n : Int) : Rat) / 1000 := by
  unfold moment
  rw [add_sub_add_left_eq_sub, ← sub_div, Int.cast_sub]

theorem moment_add (start : Rat) (m n : Int) :
    moment start m + (n : Rat) / 1000 = moment start (m + n) := by
  unfold moment
  rw [Int.cast_add, add_div, add_assoc]

theorem wholeMillis_moment (start : Rat) (ms : Int) :
    Clock.wholeMillis (moment start ms - start) = ms := by
  have hspan : (moment start ms - start) * 1000 = ms := by
    unfold moment
    field_simp
    ring
  show ((moment start ms - start) * 1000).num.tdiv ((moment start ms - start) * 1000).den = ms
  rw [hspan]
  simp

theorem least_millis (m n : Int) :
    Clock.least (mkRat m 1000) ((n : Rat) / 1000) = ((min m n : Int) : Rat) / 1000 := by
  have hthousand : (0 : Rat) ≤ 1000 := by norm_num
  rw [least_eq, Rat.mkRat_eq_div, Nat.cast_ofNat, min_div_div_right hthousand, Int.cast_min]

/-! ## What is asked -/

def shows : Except Fault (Option PageResult) → Bool
  | .ok (some r) => r.success && r.data.isTruthy
  | _ => false

/-- Asked whether the element exists, the page answers at once by its history, at worst that it
cannot be reached, and `asked` are the moments at which it was. -/
structure Watched (h : Host W Rat) (tab : TabRef) (selector : String)
    (history : Rat → Except Fault (Option PageResult)) (asked : W → List Rat) : Prop where
  answers : ∀ t w, ∃ w' requests, h.perform tab .exists (question selector) t w =
    .done w' requests (history t) ∧ asked w' = asked w ++ [t]
  passing : ∀ t f, history t = .error f → f.isA .transient = true
  quiet : ∀ t w, asked (h.arrivals t w).1 = asked w

/-- Of the questions that are due these are asked: all up to the first that shows the element, or
all of them. With them goes whether the element was found, and when the wait is over. -/
inductive Conducted (shown : Int → Bool) (stop : Int) (due : List Int) :
    List Int → Bool → Int → Prop
  | found {earlier later : List Int} {ms : Int} : due = earlier ++ ms :: later →
      (∀ e ∈ earlier, shown e = false) → shown ms = true →
      Conducted shown stop due (earlier ++ [ms]) true ms
  | late : (∀ e ∈ due, shown e = false) → Conducted shown stop due due false stop

namespace Conducted

variable {shown : Int → Bool} {stop ms : Int} {due checks : List Int} {seen : Bool}

theorem first {later : List Int} (hms : shown ms = true) :
    Conducted shown stop (ms :: later) [ms] true ms :=
  .found (List.nil_append _).symm nofun hms

theorem cons {first : Int} (hfirst : shown first = false)
    (hc : Conducted shown stop due checks seen ms) :
    Conducted shown stop (first :: due) (first :: checks) seen ms := by
  cases hc with
  | found hsplit hearlier hms =>
    exact .found (by rw [hsplit, List.cons_append]) (List.forall_mem_cons.2 ⟨hfirst, hearlier⟩) hms
  | late hdue => exact .late (List.forall_mem_cons.2 ⟨hfirst, hdue⟩)

theorem seen_iff (hc : Conducted shown stop due checks seen ms) :
    seen = true ↔ ∃ e ∈ due, shown e = true := by
  cases hc with
  | found hsplit _ hms =>
    have hmem : ms ∈ due := by rw [hsplit]; simp
    exact ⟨fun _ => ⟨ms, hmem, hms⟩, fun _ => rfl⟩
  | late hdue =>
    constructor
    · nofun
    · rintro ⟨e, he, hshown⟩
      rw [hdue e he] at hshown
      cases hshown

end Conducted

section Waits

variable {h : Host W Rat} {tab : TabRef} {selector : String}
  {history : Rat → Except Fault (Option PageResult)} {asked : W → List Rat} {ds : List Rat}
  {s : Scene W Rat} {p : P}

theorem Watched.check (hw : Watched h tab selector history asked) (ds : List Rat)
    (s : Scene W Rat) (p : P) :
    ∃ s', ElementWait.check tab selector h ds s p = (.done (shows (history s.now)), s', p) ∧
      s'.now = s.now ∧ asked s'.world = asked s.world ++ [s.now] := by
  obtain ⟨w', requests, hanswer, hasked⟩ := hw.answers s.now s.world
  have hcall : (Activity.call fun h : Host W Rat =>
      h.perform tab .exists [(.text "selector", .text selector)] :
      Activity W Rat P (Option PageResult)) h ds s p =
        follow ds p (.done w' requests (history s.now)) s := congrArg (follow ds p · s) hanswer
  refine ⟨⟨w', s.now, s.control.receiveAll requests⟩, ?_, rfl, hasked⟩
  cases hhistory : history s.now with
  | ok r =>
    rw [hhistory] at hcall
    rw [ElementWait.check, bind_done (attempt_done hcall)]
    cases r <;> rfl
  | error f =>
    have htransient := hw.passing s.now f hhistory
    rw [hhistory] at hcall
    rw [ElementWait.check, bind_done (attempt_failed hcall)]
    simp only [htransient, if_true]
    rfl

theorem Watched.sleep (hw : Watched h tab selector history asked) {d : Rat} (hd : 0 ≤ d)
    (hds : Before (s.now + d) ds) :
    ∃ s', (Activity.sleep d : Activity W Rat P Unit) h ds s p = (.done (), s', p) ∧
      s'.now = s.now + d ∧ asked s'.world = asked s.world := by
  have hnow : Before s.now ds := fun e he => (le_add_of_nonneg_right hd).trans_lt (hds e he)
  rw [sleep_apply]
  obtain ⟨t, hwake, ht, -⟩ | ⟨k, t, -, -, ht, hfirst⟩ := wake_cases d hnow
  · rw [hwake]
    refine ⟨_, rfl, ?_, hw.quiet _ _⟩
    rw [ht, max_eq_right hd]
  · exact absurd ht (not_le.2 (hds t (List.mem_of_getElem? hfirst.own)))

/-- A question, and what follows it: an end, or the next question after a sleep. -/
theorem Watched.pollFrom_succ (hw : Watched h tab selector history asked) {timeoutMs pollMs : Int}
    (hpoll : 1 ≤ pollMs) {start : Rat} (hds : Before (moment start (max 0 timeoutMs)) ds)
    (polls fuel : Nat) {m : Int} (hnow : s.now = moment start m) :
    let poll := ElementWait.pollFrom (P := P) tab selector start (moment start timeoutMs)
      (mkRat pollMs 1000)
    ∃ s', asked s'.world = asked s.world ++ [moment start m] ∧
      (shows (history (moment start m)) = true ∧ s'.now = moment start m ∧
          poll polls (fuel + 1) h ds s p = (.done ⟨true, m, polls + 1, false⟩, s', p) ∨
        shows (history (moment start m)) = false ∧ timeoutMs ≤ m ∧ s'.now = moment start m ∧
          poll polls (fuel + 1) h ds s p = (.done ⟨false, m, polls + 1, true⟩, s', p) ∨
        shows (history (moment start m)) = false ∧ m < timeoutMs ∧
          s'.now = moment start (m + min pollMs (timeoutMs - m)) ∧
          poll polls (fuel + 1) h ds s p = poll (polls + 1) fuel h ds s' p) := by
  intro poll
  obtain ⟨s₁, hcheck, hnow₁, hasked⟩ := hw.check ds s p
  rw [hnow] at hcheck hnow₁ hasked
  have helapsed : Clock.wholeMillis (Clock.sub s₁.now start) = m := by
    rw [hnow₁, Clock.sub_eq, wholeMillis_moment]
  have hspan : Clock.sub (moment start timeoutMs) s₁.now =
      ((timeoutMs - m : Int) : Rat) / 1000 := by
    rw [hnow₁, Clock.sub_eq, moment_sub]
  simp only [poll, ElementWait.pollFrom]
  rw [bind_done hcheck, now_bind, helapsed, hspan]
  cases hshown : shows (history (moment start m)) with
  | true => exact ⟨s₁, hasked, .inl ⟨rfl, hnow₁, rfl⟩⟩
  | false =>
    by_cases hlate : timeoutMs ≤ m
    · have hover : Clock.le (((timeoutMs - m : Int) : Rat) / 1000) Clock.zero = true :=
        Clock.millis_le_zero.2 (by omega)
      refine ⟨s₁, hasked, .inr (.inl ⟨rfl, hlate, hnow₁, ?_⟩)⟩
      simp only [Bool.false_eq_true, if_false, hover, if_true]
      rfl
    · have hleft : ¬ Clock.le (((timeoutMs - m : Int) : Rat) / 1000) Clock.zero = true :=
        mt Clock.millis_le_zero.1 (by omega)
      have hpos : 0 ≤ min pollMs (timeoutMs - m) := by omega
      have hnonneg : (0 : Rat) ≤ ((min pollMs (timeoutMs - m) : Int) : Rat) / 1000 :=
        div_nonneg (Int.cast_nonneg hpos) (by norm_num)
      have hwoken : s₁.now + ((min pollMs (timeoutMs - m) : Int) : Rat) / 1000 =
          moment start (m + min pollMs (timeoutMs - m)) := by
        rw [hnow₁, moment_add]
      -- the sleep ends when the wait does, if not before
      have hbefore : Before (moment start (m + min pollMs (timeoutMs - m))) ds := by
        intro d hd
        have hle : m + min pollMs (timeoutMs - m) ≤ max 0 timeoutMs := by omega
        exact (moment_le.2 hle).trans_lt (hds d hd)
      rw [← hwoken] at hbefore
      obtain ⟨s₂, hsleep, hnow₂, hsame⟩ := hw.sleep (p := p) hnonneg hbefore
      refine ⟨s₂, hsame.trans hasked, .inr (.inr ⟨rfl, not_le.1 hlate, hnow₂.trans hwoken, ?_⟩)⟩
      simp only [Bool.false_eq_true, if_false, hleft, least_millis]
      exact bind_done hsleep

theorem Watched.pollFrom (hw : Watched h tab selector history asked) {timeoutMs pollMs : Int}
    (hpoll : 1 ≤ pollMs) {start : Rat} (hds : Before (moment start (max 0 timeoutMs)) ds)
    {k left fuel : Nat} (hk : k + left = intervals timeoutMs pollMs) (hfuel : left < fuel)
    (polls : Nat) (hnow : s.now = moment start (dueAt timeoutMs pollMs k)) :
    ∃ checks seen ms s', ElementWait.pollFrom tab selector start (moment start timeoutMs)
        (mkRat pollMs 1000) polls fuel h ds s p =
          (.done ⟨seen, ms, polls + checks.length, !seen⟩, s', p) ∧
      s'.now = moment start ms ∧ asked s'.world = asked s.world ++ checks.map (moment start) ∧
      Conducted (fun ms => shows (history (moment start ms))) (max 0 timeoutMs)
        ((List.range' k (left + 1)).map (dueAt timeoutMs pollMs)) checks seen ms := by
  -- on the intervals that are left; a question that shows nothing is followed by the later ones
  induction left generalizing k fuel polls s with
  | zero =>
    obtain ⟨fuel, rfl⟩ := Nat.exists_eq_succ_of_ne_zero hfuel.ne'
    obtain rfl : k = intervals timeoutMs pollMs := by omega
    rw [dueAt_intervals hpoll] at hnow
    rw [List.range'_one, List.map_singleton, dueAt_intervals hpoll]
    obtain ⟨s', hasked, ⟨hshown, hstop, hend⟩ | ⟨hshown, -, hstop, hend⟩ | ⟨-, hlt, -⟩⟩ :=
      hw.pollFrom_succ hpoll hds polls fuel (p := p) hnow
    · exact ⟨[max 0 timeoutMs], true, _, s', hend, hstop, hasked, .first hshown⟩
    · have hnone : ∀ e ∈ [max 0 timeoutMs], shows (history (moment start e)) = false :=
        List.forall_mem_singleton.2 hshown
      exact ⟨[max 0 timeoutMs], false, _, s', hend, hstop, hasked, .late hnone⟩
    · omega
  | succ left ih =>
    obtain ⟨fuel, rfl⟩ := Nat.exists_eq_succ_of_ne_zero (Nat.ne_zero_of_lt hfuel)
    have hk' : k < intervals timeoutMs pollMs := by omega
    have hlt : dueAt timeoutMs pollMs k < timeoutMs := by
      rw [dueAt_of_lt hpoll hk']
      exact (lt_intervals hpoll).1 hk'
    rw [List.range'_succ, List.map_cons]
    obtain ⟨s', hasked, ⟨hshown, hstop, hend⟩ | ⟨-, hle, -⟩ | ⟨hshown, -, hnext, hrest⟩⟩ :=
      hw.pollFrom_succ hpoll hds polls fuel (p := p) hnow
    · exact ⟨[dueAt timeoutMs pollMs k], true, _, s', hend, hstop, hasked, .first hshown⟩
    · omega
    · rw [← dueAt_succ hpoll hk'] at hnext
      obtain ⟨checks, seen, ms, s'', hend, hstop, hasked', hconducted⟩ :=
        ih (k := k + 1) (by omega) (Nat.lt_of_succ_lt_succ hfuel) (polls + 1) hnext
      refine ⟨dueAt timeoutMs pollMs k :: checks, seen, ms, s'', ?_, hstop, ?_,
        hconducted.cons hshown⟩
      · rw [hrest, hend, List.length_cons, Nat.add_right_comm, Nat.add_assoc]
      · rw [hasked', hasked, List.map_cons, List.append_assoc, List.singleton_append]

/-- A wait asks when its questions are due and at no other moment, until it sees the element or the
time is over. What is there from before the end of the wait up to the end is not missed. -/
theorem run_conducted (hw : Watched h tab selector history asked) (timeoutMs : Int) {pollMs : Int}
    (hpoll : 1 ≤ pollMs) (hds : Before (moment s.now (max 0 timeoutMs)) ds) :
    let due := schedule timeoutMs pollMs
    let shown := fun ms => shows (history (moment s.now ms))
    let stop := moment s.now (max 0 timeoutMs)
    (due.Pairwise (· < ·) ∧
      (∀ ms, ms ∈ due ↔ (∃ k : Nat, ms = k * pollMs ∧ ms < timeoutMs) ∨ ms = max 0 timeoutMs) ∧
      (due.length : Int) = max 1 (⌈(timeoutMs : Rat) / pollMs⌉ + 1)) ∧
    ∃ checks seen ms s', run tab selector timeoutMs pollMs h ds s p =
        (.done ⟨seen, ms, checks.length, !seen⟩, s', p) ∧
      s'.now = moment s.now ms ∧ asked s'.world = asked s.world ++ checks.map (moment s.now) ∧
      Conducted shown (max 0 timeoutMs) due checks seen ms ∧
      (seen = true ↔ ∃ ms ∈ due, shown ms = true) ∧
      ((∃ t < stop, ∀ u, t ≤ u → u ≤ stop → shows (history u) = true) → seen = true) := by
  intro due shown stop
  refine ⟨⟨schedule_ascending hpoll, fun ms => mem_schedule hpoll, schedule_length⟩, ?_⟩
  have hfuel : intervals timeoutMs pollMs < pollBound timeoutMs pollMs := by
    have hle : intervals timeoutMs pollMs ≤ timeoutMs.toNat / pollMs.toNat + 1 :=
      not_lt.1 fun hlt => ((lt_intervals hpoll).1 hlt).not_ge (timeoutMs_le timeoutMs hpoll)
    exact hle.trans_lt (lt_pollBound timeoutMs hpoll)
  have hnow : s.now = moment s.now (dueAt timeoutMs pollMs 0) := by rw [dueAt_zero, moment_zero]
  obtain ⟨checks, seen, ms, s', hend, hstop, hasked, hconducted⟩ :=
    hw.pollFrom hpoll hds (Nat.zero_add _) hfuel 0 (p := p) hnow
  rw [Nat.zero_add] at hend
  rw [← List.range_eq_range'] at hconducted
  have hrun : run tab selector timeoutMs pollMs h ds s p =
      (.done ⟨seen, ms, checks.length, !seen⟩, s', p) := by
    have hdeadline : Clock.add s.now (mkRat timeoutMs 1000) = moment s.now timeoutMs := by
      rw [Clock.add_eq, Rat.mkRat_eq_div, moment, Nat.cast_ofNat]
    rw [← hend, ← hdeadline]
    rfl
  refine ⟨checks, seen, ms, s', hrun, hstop, hasked, hconducted, hconducted.seen_iff, ?_⟩
  rintro ⟨t, ht, hpresent⟩
  have hlast : max 0 timeoutMs ∈ due := (mem_schedule hpoll).2 (.inr rfl)
  exact hconducted.seen_iff.2 ⟨_, hlast, hpresent stop ht.le le_rfl⟩

end Waits

def watching (history : Rat → Except Fault (Option PageResult)) : Host (List Rat) Rat where
  create _ _ _ w := .done w [] (.error .browserNotStarted)
  update _ _ _ w := .done w [] (.error .browserNotStarted)
  get _ _ w := .done w [] (.error .browserNotStarted)
  reload _ _ w := .done w [] (.error .browserNotStarted)
  remove _ _ w := .done w [] (.error .browserNotStarted)
  query _ _ _ w := .done w [] (.error .browserNotStarted)
  capture _ _ w := .done w [] (.error .browserNotStarted)
  awaitLoad _ _ w := .done w [] (.error .browserNotStarted)
  perform _ _ _ t w := .done (w ++ [t]) [] (history t)
  arrivals _ w := (w, [])

theorem watching_watched {history : Rat → Except Fault (Option PageResult)}
    (hpassing : ∀ t f, history t = .error f → f.isA .transient = true) (tab : TabRef)
    (selector : String) : Watched (watching history) tab selector history id where
  answers t w := ⟨w ++ [t], [], rfl, rfl⟩
  passing := hpassing
  quiet _ _ := rfl

/-- A page on which the element appears after a second and a tenth. -/
def slowPage (t : Rat) : Except Fault (Option PageResult) :=
  .ok (some (.ofData (.bool (decide (11 / 10 ≤ t)))))

theorem shows_slowPage (t : Rat) : shows (slowPage t) = decide (11 / 10 ≤ t) := rfl

def unasked : Scene (List Rat) Rat := ⟨[], 0, {}⟩

theorem run_conducted_slowPage :
    Watched (watching slowPage) (some (.number 1)) "#a" slowPage id ∧ (1 : Int) ≤ 5000 ∧
      Before (moment unasked.now (max 0 1200)) [] ∧
      ∃ (checks : List Int) (ms : Int) (s' : Scene (List Rat) Rat),
        run (some (.number 1)) "#a" 1200 5000 (watching slowPage) [] unasked () =
          (.done ⟨true, ms, checks.length, false⟩, s', ()) ∧ s'.world = checks.map (moment 0) := by
  have hw : Watched (watching slowPage) (some (.number 1)) "#a" slowPage id :=
    watching_watched (by intro t f hf; cases hf) _ _
  have hds : Before (moment unasked.now (max 0 1200)) [] := by
    intro d hd
    cases hd
  have hpoll : (1 : Int) ≤ 5000 := by decide
  obtain ⟨-, checks, seen, ms, s', hrun, -, hasked, -, -, hnever⟩ :=
    run_conducted (p := ()) hw 1200 hpoll hds
  have hseen : seen = true := by
    refine hnever ⟨11 / 10, ?_, fun u hu _ => ?_⟩
    · norm_num [moment, unasked]
    · rw [shows_slowPage, decide_eq_true hu]
  subst hseen
  exact ⟨hw, hpoll, hds, checks, ms, s', hrun, hasked⟩

/-- An interval that is longer than the wait does not make it end earlier or later. -/
example : ((run (some (.number 1)) "#a" 1200 5000 : Errand _ Rat WaitReport) (watching slowPage) []
    unasked ()).1 = .done ⟨true, 1200, 2, false⟩ := by decide +kernel

end BrowserFlow.ElementWait
