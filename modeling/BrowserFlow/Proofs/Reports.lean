import BrowserFlow.Proofs.Announcements

/-!
The reports of a run: how the first, the last and those between them read, how far they count, and
what of a receiver a run depends on.

* `Course.Flow.protocol`: the protocol that the reports of a course keep.
* `Run.flow_congr`: a run depends on when its receiver asks for a stop, and on nothing else of it.
* `Engine.run_reports`: both, for every run of an engine.
-/
namespace BrowserFlow
set_option autoImplicit false

variable {W T : Type} [Clock T]

/-! ## A run ends or is endless -/

namespace Course
variable {a : Assignment} {h : Host W T} {ds : List T} {tab : TabRef} {s : Scene W T}
  {p : Progress T} {ms : List (Moment W T)} {k : Nat}

theorem Blocks.lt_of_expired {n : Nat} {f : Block → Block} {bs : List Block}
    {r : Result W T TabRef} (hc : Blocks a h n f ds bs tab s p ms r) (hr : r.1 = .expired k) :
    k < ds.length := by
  induction hc with
  | nil => cases hr
  | stopped hs => cases hr
  | disabled hs hb hc ih => exact ih hr
  | leftOut hs hb hk hc ih => exact ih hr
  | broke hs hb hk hr' =>
    rw [Halt.outcome_eq_expired] at hr
    subst hr
    exact (Run.block_detached ..).lt_of_expired hr'
  | ran hs hb hk hr' hc ih => exact ih hr

theorem Passes.lt_of_expired {ρ : Repeater.Rounds} {body : List Block} {done left : Nat}
    {r : Result W T (TabRef × Nat)} (hc : Passes a h ρ body ds done left tab s p ms r)
    (hr : r.1 = .expired k) : k < ds.length := by
  induction hc with
  | ended => cases hr
  | stopped hs => cases hr
  | broke hs hp =>
    rw [Halt.outcome_eq_expired] at hr
    subst hr
    exact Blocks.lt_of_expired hp rfl
  | cutShort hs hp hs' => cases hr
  | next hs hp hs' hc ih => exact ih hr

theorem Repeater.lt_of_expired {b : Block} {index : Nat} {t : TabRef}
    {prep : Run W T Repeater.Setup} (hp : Repeater.setup? a b index t = some prep)
    {r : Result W T RepeaterResult} (hc : Repeater a h prep ds tab s p ms r)
    (hr : r.1 = .expired k) : k < ds.length := by
  cases hc with
  | unready hu =>
    rw [Halt.outcome_eq_expired] at hr
    subst hr
    exact (Repeater.setup?_detached hp).lt_of_expired hu
  | ready hu hc => exact hc.lt_of_expired (Outcome.map_eq_expired.1 hr)

/-- A deadline of its own does not get out of a unit. -/
theorem Unit.lt_of_expired {index : Nat} {b : Block} {r : Result W T (Nat × TabRef)}
    (hc : Unit a h ds index b tab s p ms r) (hr : r.1 = .expired k) : k < ds.length := by
  cases hc with
  | late hb => cases hr
  | @single inner r hk hb hr' =>
    obtain ⟨he, hne⟩ := Activity.capped_eq_expired.1 (Outcome.map_eq_expired.1 hr)
    have hrun : Run.block a b tab h inner (Activity.yielded h s) p = (.expired k, r.2) := by
      rw [hr', ← he]
    have hlt := (Run.block_detached a b tab).lt_of_expired hrun
    have hle := Activity.budget?_length_le hb
    omega
  | repeated hp hb hc =>
    obtain ⟨he, hne⟩ := Activity.capped_eq_expired.1 (Outcome.map_eq_expired.1 hr)
    have hlt := hc.lt_of_expired hp he
    have hle := Activity.budget?_length_le hb
    omega

theorem Scan.lt_of_expired {index : Nat} {r : Result W T TabRef}
    (hc : Scan a h ds index tab s p ms r) (hr : r.1 = .expired k) : k < ds.length := by
  induction hc with
  | ended hi => cases hr
  | stopped hb hs => cases hr
  | disabled hb hs he hc ih => exact ih hr
  | leftOut hb hs he hk hc ih => exact ih hr
  | broke hb hs he hk hu =>
    exact Unit.lt_of_expired hu (by rw [Halt.outcome_eq_expired] at *; exact hr)
  | ran hb hs he hk hu hc ih => exact ih hr

/-- Outside of every scope there is no deadline, so a run ends unless it is endless. -/
theorem Flow.done_or_endless {r : Result W T RunStatus} (hc : Flow a h [] tab s p ms r) :
    (∃ st, r.1 = .done st) ∨ r.1 = .endless := by
  cases hc with
  | completed hc => exact .inl ⟨_, rfl⟩
  | failed hc => exact .inl ⟨_, rfl⟩
  | @lost _ _ _ e he hc =>
    cases e with
    | failed f => exact absurd rfl (he f)
    | expired k =>
      have hlt := Scan.lt_of_expired hc rfl
      exact absurd hlt (Nat.not_lt_zero k)
    | endless => exact .inr rfl

end Course

/-! ## The protocol -/

/-- How the reports of a run read, the last of them being `st`. -/
structure Run.Series (flow : Flow) (reports : List RunStatus) (st : RunStatus) : Prop where
  opens : ∃ first rest, reports = first :: rest ∧ first.state = .running ∧ first.current = 0
  names : ∀ r ∈ reports, r.flowId = flow.id ∧ r.flowName = flow.name ∧ r.total = flow.enabledCount
  rises : reports.Pairwise fun r r' => r.current ≤ r'.current
  bounded : ∀ r ∈ reports, r.current ≤ flow.enabledCount
  ends : ∃ before, reports = before ++ [st] ∧ st.isTerminal = true ∧
    ∀ r ∈ before, r.state = .running
  distinct : reports.Nodup

/-- How they end when the scan of the run reached the positions `visited` and its top-level blocks
failed with `raised`. -/
structure Run.Protocol (flow : Flow) (visited : List Nat) (raised : List Fault)
    (reports : List RunStatus) (st : RunStatus) : Prop extends Run.Series flow reports st where
  single : raised = [] ∨ ∃ f, raised = [f]
  completed : raised = [] →
    st.state = .completed ∧ st.current = flow.enabledCount ∧ st.error = none
  failed : ∀ f, raised = [f] →
    st.state = .error ∧ st.current = visited.length ∧ st.error = some f.message

/-- Which positions a run reaches: enabled ones, each at most once and from first to last. Each is
then left out or its block is started; blocks inside a body are not among them. -/
structure Course.Visits (a : Assignment) (ms : List (Moment W T)) : Prop where
  ascending : (visited ms).Pairwise (· < ·)
  enabled : ∀ index ∈ visited ms, ∃ b, a.flow.blocks[index]? = some b ∧ b.enabled = true
  handled : Course.handled ms = visited ms

omit [Clock T] in
/-- A report between the first and the last one is a running one, with the count at its moment. -/
theorem Moment.Sound.status {a : Assignment} {m : Moment W T} (hm : m.Sound a) {ev : Event T}
    (he : m.event? = some ev) :
    ∃ message icon, ev.status =
      Run.statusOf a.flow m.progress.reached .running message none icon := by
  obtain ⟨deed, s, p⟩ := m
  cases deed with
  | report topic status =>
    obtain ⟨-, -, -, message, icon, hstatus⟩ := hm
    cases he
    exact ⟨message, icon, hstatus⟩
  | _ => cases he

omit [Clock T] in
theorem Moment.Sound.reached {a : Assignment} {m : Moment W T} (hm : m.Sound a) {index : Nat}
    (hd : m.deed.reached? = some index) :
    ∃ b, a.flow.blocks[index]? = some b ∧ b.enabled = true := by
  obtain ⟨deed, s, p⟩ := m
  cases deed with
  | reach i =>
    cases hd
    exact hm.2
  | _ => cases hd

namespace Course
variable {a : Assignment} {h : Host W T} {ds : List T} {tab : TabRef} {s : Scene W T}
  {p : Progress T} {ms : List (Moment W T)}

theorem steady_reached (a : Assignment) (h : Host W T) :
    Steady a h fun σ τ => σ.2.reached ≤ τ.2.reached where
  refl _ := Nat.le_refl _
  trans := Nat.le_trans
  block b tab ds s p := Nat.le_of_eq (Run.block_changes a b tab h ds s p).1.symm
  setup hp ds s p := by
    have hkeep := Repeater.setup?_keeps hp h ds s p
    exact Nat.le_of_eq (congrArg Progress.reached hkeep)
  yielded _ _ := Nat.le_refl _
  report _ _ _ := Nat.le_refl _
  bound _ _ _ _ := Nat.le_refl _
  settle _ _ := Nat.le_refl _
  skip _ _ := Nat.le_refl _
  reach _ _ _ := Nat.le_succ _

section Opened
variable {r : Result W T TabRef} (hc : Opened a h ds tab s p ms r)
include hc

/-- A report of the scan is a running one, with a count that the scan does not go back behind. -/
theorem Opened.mem_reports {status : RunStatus} (hs : status ∈ reports ms) :
    ∃ reached message icon, reached ≤ r.2.2.reached ∧
      status = Run.statusOf a.flow reached .running message none icon := by
  obtain ⟨ev, hev, rfl⟩ := List.mem_map.1 hs
  obtain ⟨m, hm, he⟩ := List.mem_filterMap.1 hev
  obtain ⟨message, icon, hstatus⟩ := (hc.account.sound m hm).status he
  exact ⟨_, message, icon, (Scan.along (steady_reached a h) hc).last m hm, hstatus⟩

theorem Opened.reports_rise : (reports ms).Pairwise fun r r' => r.current ≤ r'.current := by
  refine List.pairwise_map.2 (List.pairwise_filterMap.2 ?_)
  refine (Scan.along (steady_reached a h) hc).pairs.imp_of_mem
    fun {m m'} hm hm' hle ev he ev' he' => ?_
  obtain ⟨_, _, hstatus⟩ := (hc.account.sound m hm).status he
  obtain ⟨_, _, hstatus'⟩ := (hc.account.sound m' hm').status he'
  rw [hstatus, hstatus']
  exact hle

theorem Opened.reached_le (h0 : p.reached = 0) : r.2.2.reached ≤ a.flow.enabledCount := by
  have hroom := hc.account.room
  have hreached : r.2.2.reached = p.reached + (visited ms).length := hc.account.reached
  rw [List.drop_zero] at hroom
  unfold Flow.enabledCount
  omega

theorem Opened.running : ∀ r ∈ Run.openingStatus a p.reached :: reports ms, r.state = .running := by
  refine List.forall_mem_cons.2 ⟨rfl, fun r hr => ?_⟩
  obtain ⟨_, _, _, -, rfl⟩ := hc.mem_reports hr
  rfl

/-- The reports of a scan between the opening and a last report that counts no less than the scan
did. -/
theorem Opened.series (h0 : p.reached = 0) {current : Nat} {state : RunState} {message : String}
    {error : Option String} (hstate : state.isTerminal = true) (hlow : r.2.2.reached ≤ current)
    (hhigh : current ≤ a.flow.enabledCount) :
    Run.Series a.flow
      (Run.openingStatus a p.reached :: reports ms ++
        [Run.statusOf a.flow current state message error none])
      (Run.statusOf a.flow current state message error none) where
  opens := ⟨_, _, rfl, rfl, h0⟩
  names := by
    refine List.forall_mem_append.2 ⟨List.forall_mem_cons.2 ⟨⟨rfl, rfl, rfl⟩, fun r hr => ?_⟩, ?_⟩
    · obtain ⟨_, _, _, -, rfl⟩ := hc.mem_reports hr
      exact ⟨rfl, rfl, rfl⟩
    · exact List.forall_mem_singleton.2 ⟨rfl, rfl, rfl⟩
  rises := by
    refine List.pairwise_append.2 ⟨List.pairwise_cons.2 ⟨fun r hr => ?_, hc.reports_rise⟩,
      List.pairwise_singleton .., ?_⟩
    · rw [h0]
      exact Nat.zero_le _
    · refine List.forall_mem_cons.2 ⟨?_, fun r hr => ?_⟩ <;> refine List.forall_mem_singleton.2 ?_
      · rw [h0]
        exact Nat.zero_le _
      · obtain ⟨reached, _, _, hle, rfl⟩ := hc.mem_reports hr
        exact Nat.le_trans hle hlow
  bounded := by
    refine List.forall_mem_append.2 ⟨List.forall_mem_cons.2 ⟨?_, fun r hr => ?_⟩, ?_⟩
    · rw [h0]
      exact Nat.zero_le _
    · obtain ⟨reached, _, _, hle, rfl⟩ := hc.mem_reports hr
      exact Nat.le_trans hle (hc.reached_le h0)
    · exact List.forall_mem_singleton.2 hhigh
  ends := ⟨_, rfl, hstate, hc.running⟩
  distinct := by
    obtain ⟨hnodup, hcurrent⟩ := Scan.reports_nodup hc
    have hopening : Run.openingStatus a p.reached ∉ reports ms := fun hst =>
      Nat.lt_irrefl p.reached (hcurrent _ hst)
    refine List.nodup_append.2 ⟨List.nodup_cons.2 ⟨hopening, hnodup⟩,
      List.pairwise_singleton .., fun r hr => List.forall_mem_singleton.2 ?_⟩
    -- the last report is the only one that is not a running one
    rintro rfl
    have hrunning := hc.running _ hr
    rw [show state = .running from hrunning] at hstate
    cases hstate

end Opened

section Whole
variable (first last : RunStatus) (ms : List (Moment W T)) (s s' : Scene W T) (p p' : Progress T)

omit [Clock T] in
theorem reports_whole :
    reports (⟨.report .opening first, s, p⟩ :: ms ++ [⟨.report .closing last, s', p'⟩]) =
      first :: reports ms ++ [last] :=
  reports_append (⟨.report .opening first, s, p⟩ :: ms) _

omit [Clock T] in
theorem visited_whole :
    visited (⟨.report .opening first, s, p⟩ :: ms ++ [⟨.report .closing last, s', p'⟩]) =
      visited ms := by
  rw [visited_append]
  exact List.append_nil _

omit [Clock T] in
theorem raised_whole :
    raised (⟨.report .opening first, s, p⟩ :: ms ++ [⟨.report .closing last, s', p'⟩]) =
      raised ms := by
  rw [raised_append]
  exact List.append_nil _

end Whole

theorem Flow.protocol {st : RunStatus} {s' : Scene W T} {p' : Progress T} (h0 : p.reached = 0)
    (hc : Flow a h ds tab s p ms (.done st, s', p')) :
    Run.Protocol a.flow (visited ms) (raised ms) (reports ms) st := by
  generalize hr : (Outcome.done st, s', p') = r at hc
  cases hc with
  | @completed ms tab' s₁ p₁ hc =>
    cases hr
    have hseries : Run.Series a.flow _ (Run.completedStatus a) :=
      hc.series h0 rfl (hc.reached_le h0) (Nat.le_refl _)
    rw [reports_whole, raised_whole, Scan.raised_eq hc]
    exact { hseries with
      single := .inl rfl
      completed := fun _ => ⟨rfl, rfl, rfl⟩
      failed := nofun }
  | @failed ms f s₁ p₁ hc =>
    cases hr
    have hseries : Run.Series a.flow _ (Run.errorStatus a f p₁.reached) :=
      hc.series h0 rfl (Nat.le_refl _) (hc.reached_le h0)
    have hreached : p₁.reached = p.reached + (visited ms).length := hc.account.reached
    rw [h0, Nat.zero_add] at hreached
    rw [reports_whole, raised_whole, Scan.raised_eq hc, visited_whole]
    refine { hseries with single := .inr ⟨f, rfl⟩, completed := nofun, failed := fun f' hf => ?_ }
    cases hf
    exact ⟨rfl, hreached, rfl⟩
  | @lost _ _ _ e he hc => exact absurd (congrArg Prod.fst hr) (Halt.done_ne_outcome _ _)

theorem Flow.visits {r : Result W T RunStatus} (hc : Flow a h ds tab s p ms r) : Visits a ms := by
  obtain ⟨ms, r, last, rfl, hc, hlast⟩ := hc.opened
  have hv : visited (⟨.report .opening (Run.openingStatus a p.reached), s, p⟩ :: ms ++ last) =
      visited ms := by
    rw [visited_append]
    obtain rfl | ⟨st, s', p', rfl⟩ := hlast <;> exact List.append_nil _
  have hh : handled (⟨.report .opening (Run.openingStatus a p.reached), s, p⟩ :: ms ++ last) =
      handled ms := by
    rw [handled_append]
    obtain rfl | ⟨st, s', p', rfl⟩ := hlast <;> exact List.append_nil _
  refine ⟨?_, ?_, ?_⟩
  · rw [hv]
    exact hc.account.ascending
  · rw [hv]
    intro index hi
    obtain ⟨m, hm, hd⟩ := List.mem_filterMap.1 hi
    exact (hc.account.sound m hm).reached hd
  · rw [hv, hh]
    exact hc.account.handled

theorem Flow.events_eq {r : Result W T RunStatus} (hc : Flow a h ds tab s p ms r) :
    r.2.2.events = p.events ++ events ms := by
  have hopened {ms : List (Moment W T)} (last : List (Moment W T)) {r : Result W T TabRef}
      (hc : Opened a h ds tab s p ms r) : r.2.2.events ++ events last =
        p.events ++
          events (⟨.report .opening (Run.openingStatus a p.reached), s, p⟩ :: ms ++ last) := by
    rw [hc.account.events, List.cons_append, events_cons, events_append]
    simp only [Progress.reporting, List.append_assoc]
    rfl
  cases hc with
  | completed hc =>
    refine Eq.trans ?_ (hopened [_] hc)
    rfl
  | failed hc =>
    refine Eq.trans ?_ (hopened [_] hc)
    rfl
  | lost he hc =>
    have hlost := hopened [] hc
    rw [List.append_nil] at hlost
    exact (List.append_nil _).symm.trans hlost

end Course

/-! ## What of a receiver a run depends on -/

/-- Whether a receiver, if there is one, asks for a stop when it gets a report. -/
def Sink.asksStop (sink : Option Sink) (status : RunStatus) : Bool :=
  sink.any fun k => (k status).stops

namespace Run

omit [Clock T] in
theorem heard_eq (a : Assignment) (status : RunStatus) (s : Scene W T) :
    heard a status s =
      if Sink.asksStop a.sink status then { s with control := s.control.receive .stop } else s := by
  unfold heard Sink.asksStop
  cases a.sink <;> rfl

section Congr
variable {flow : Flow} {e : Engagement} {k k' : Option Sink}
  (hk : ∀ status, Sink.asksStop k status = Sink.asksStop k' status)
include hk

omit [Clock T] in
theorem announce_congr (message : String) (icon : Option String) :
    (announce ⟨flow, e, k⟩ message icon : Run W T Unit) = announce ⟨flow, e, k'⟩ message icon := by
  funext h ds s p
  rw [announce_apply, announce_apply, heard_eq, heard_eq]
  dsimp only
  rw [hk]

omit [Clock T] in
theorem emit_congr (state : RunState) (message : String) (error icon : Option String) :
    (emit ⟨flow, e, k⟩ state message error icon : Run W T RunStatus) =
      emit ⟨flow, e, k'⟩ state message error icon := by
  funext h ds s p
  rw [emit_apply, emit_apply, heard_eq, heard_eq]
  dsimp only
  rw [hk]

omit hk in
theorem blocks_congr (f : Block → Block) (bs : List Block) (tab : TabRef) :
    (Repeater.blocks ⟨flow, e, k⟩ f bs tab : Run W T TabRef) =
      Repeater.blocks ⟨flow, e, k'⟩ f bs tab := by
  induction bs generalizing tab with
  | nil => rfl
  | cons b rest ih =>
    rw [Repeater.blocks, Repeater.blocks, funext ih]
    rfl

omit [Clock T] in
theorem plan_congr (ρ : Repeater.Rounds) :
    (ρ.plan ⟨flow, e, k⟩ : Repeater.Plan W T) = ρ.plan ⟨flow, e, k'⟩ := by
  unfold Repeater.Rounds.plan
  simp only [announce_congr hk]

omit hk in
theorem passes_congr (plan : Repeater.Plan W T) (body : List Block) (done left : Nat)
    (tab : TabRef) :
    Repeater.passes ⟨flow, e, k⟩ plan body done left tab =
      Repeater.passes ⟨flow, e, k'⟩ plan body done left tab := by
  induction left generalizing done tab with
  | zero => rfl
  | succ left ih =>
    rw [Repeater.passes, Repeater.passes, funext (ih (done + 1))]
    unfold Repeater.pass
    rw [blocks_congr]

theorem unit_congr (index : Nat) (b : Block) (tab : TabRef) :
    (unit ⟨flow, e, k⟩ index b tab : Run W T _) = unit ⟨flow, e, k'⟩ index b tab := by
  have hsetup : (Repeater.setup? ⟨flow, e, k⟩ b index tab : Option (Run W T _)) =
      Repeater.setup? ⟨flow, e, k'⟩ b index tab := rfl
  have hrun (u : Repeater.Setup) :
      (u.run ⟨flow, e, k⟩ tab : Run W T _) = u.run ⟨flow, e, k'⟩ tab := by
    unfold Repeater.Setup.run
    rw [plan_congr hk, passes_congr]
  rw [unit_eq, unit_eq, hsetup, funext hrun]
  rfl

theorem scanFrom_congr (fuel index : Nat) (tab : TabRef) :
    (scanFrom ⟨flow, e, k⟩ fuel index tab : Run W T TabRef) =
      scanFrom ⟨flow, e, k'⟩ fuel index tab := by
  induction fuel generalizing index tab with
  | zero => rfl
  | succ fuel ih =>
    simp only [scanFrom, ih, announce_congr hk, unit_congr hk]

/-- A run depends on when its receiver asks for a stop, and on nothing else of it. -/
theorem flow_congr (tab : TabRef) :
    (Run.flow ⟨flow, e, k⟩ tab : Run W T RunStatus) = Run.flow ⟨flow, e, k'⟩ tab := by
  unfold Run.flow scan
  simp only [scanFrom_congr hk, announce_congr hk, emit_congr hk]

end Congr
end Run

/-! ## Runs of an engine -/

/-- Every run of an engine goes through a course, and ends unless it is endless. When it ends, its
reports keep the protocol; the last one is returned and kept. Receivers that ask for a stop at the
same reports make no difference, whether or not they fail. -/
theorem Engine.run_reports (e : Engine) (host : Host W T) (flow : Flow) (tab : TabRef)
    (sink : Option Sink) (initial : List (String × Value)) (world : W) (now : T) :
    (∃ ms, e.RunsThrough host flow tab sink initial world now ms) ∧
      (∀ ms, e.RunsThrough host flow tab sink initial world now ms →
        Course.Visits ⟨flow, e.engagement, sink⟩ ms ∧
          match (e.run host flow tab sink initial world now).status with
          | none => (e.result host flow tab sink initial world now).1 = .endless
          | some st =>
            (e.run host flow tab sink initial world now).engine.lastStatus = some st ∧
              Run.Protocol flow (Course.visited ms) (Course.raised ms)
                ((e.run host flow tab sink initial world now).events.map (·.status)) st) ∧
      ∀ sink' : Option Sink,
        (∀ status, Sink.asksStop sink' status = Sink.asksStop sink status) →
          e.run host flow tab sink' initial world now =
            e.run host flow tab sink initial world now := by
  refine ⟨e.exists_runsThrough .., fun ms hms => ⟨hms.visits, ?_⟩, fun sink' hk => ?_⟩
  · have hevents := hms.events_eq
    rw [run_lastStatus, run_events, run_status, hevents]
    unfold RunsThrough at hms
    generalize e.result host flow tab sink initial world now = r at hms
    obtain ⟨o, s', p'⟩ := r
    obtain ⟨st, rfl⟩ | rfl := hms.done_or_endless
    · exact ⟨rfl, hms.protocol rfl⟩
    · rfl
  · unfold run
    dsimp only
    rw [Run.flow_congr hk]

end BrowserFlow
