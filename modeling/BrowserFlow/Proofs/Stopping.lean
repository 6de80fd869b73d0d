import BrowserFlow.Proofs.Reports

/-!
Stops. A stop that is asked for at some moment of a run counts from then on, wherever the run is.
No block starts after it, but for one top-level block whose report was being made; what is under
way goes on as if nothing had happened, and the run ends as soon as it is over.
-/
namespace BrowserFlow
set_option autoImplicit false

variable {W T : Type}

/-! ## Requests -/

/-- While a flow is under way, a stop among the requests counts. -/
theorem Control.receiveAll_stop {c : Control} {rs : List Request} (ha : c.active.isSome = true)
    (hr : Request.stop ∈ rs) : (c.receiveAll rs).stopped = true := by
  induction rs generalizing c with
  | nil => cases hr
  | cons r rs ih =>
    obtain rfl | hr := List.mem_cons.1 hr
    · refine receiveAll_stopped _ rs ?_
      rw [receive, if_pos ha]
    · exact ih (c := c.receive r) (by rw [receive_active]; exact ha) hr

variable [Clock T]

/-- Blocks, the preparations of repeaters and whole units without a body do not look at requests:
a stop does not reach inside them. -/
structure Run.Uninterrupted (a : Assignment) (W T : Type) [Clock T] : Prop where
  block : ∀ b tab, Activity.Detached (Run.block a b tab : Run W T TabRef)
  unit : ∀ index b tab, b.isRepeater = false →
    Activity.Detached (Run.unit a index b tab : Run W T (Nat × TabRef))
  setup : ∀ index b tab (prep : Run W T Repeater.Setup),
    Repeater.setup? a b index tab = some prep → Activity.Detached prep

theorem Run.uninterrupted (a : Assignment) : Uninterrupted a W T where
  block := block_detached a
  unit index b tab hr := by
    rw [unit_eq, Repeater.setup?_eq_none.2 hr]
    exact .bind (.within (block_detached ..) ..) fun tab => .pure _
  setup index b tab prep hp := Repeater.setup?_detached hp

/-! ## Along a course -/

namespace Course
variable {a : Assignment} {h : Host W T} {ds : List T} {tab : TabRef} {s : Scene W T}
  {p : Progress T} {ms ms' : List (Moment W T)}

/-- A run does nothing to its requests but take them in. -/
theorem steady_control (a : Assignment) (h : Host W T) :
    Steady a h fun σ τ => ∃ rs, τ.1.control = σ.1.control.receiveAll rs where
  refl σ := ⟨[], rfl⟩
  trans := by
    rintro σ τ υ ⟨rs, hr⟩ ⟨rs', hr'⟩
    exact ⟨rs ++ rs', by rw [hr', hr, Control.receiveAll_append]⟩
  block b tab ds s p := by
    obtain ⟨o, w', t', p', rs, -, hc⟩ := (Run.block_detached a b tab).runs h ds s.world s.now p
    exact ⟨rs, congrArg (fun r => r.2.1.control) (hc s.control)⟩
  setup hp ds s p := by
    obtain ⟨o, w', t', p', rs, -, hc⟩ := (Repeater.setup?_detached hp).runs h ds s.world s.now p
    exact ⟨rs, congrArg (fun r => r.2.1.control) (hc s.control)⟩
  yielded s p := ⟨_, rfl⟩
  report status s p := by
    unfold Run.heard
    split
    · split
      · exact ⟨[.stop], rfl⟩
      · exact ⟨[], rfl⟩
    · exact ⟨[], rfl⟩
  bound ρ n s p := ⟨[], rfl⟩
  settle s p := ⟨[], rfl⟩
  skip s p := ⟨[], rfl⟩
  reach index s p := ⟨[], rfl⟩

/-! ## Announcements -/

/-- Each top-level block starts right after its announcement, which was made with no stop asked
for. -/
def Announced (ms : List (Moment W T)) : Prop :=
  ∀ pre m post index b tab, ms = pre ++ m :: post → m.deed = .start (.top index) b tab →
    ∃ pre' m₀ st, pre = pre' ++ [m₀] ∧ m₀.deed = .report (.unit index) st ∧ m₀.isStopped = false

omit [Clock T] in
theorem Announced.of_not_start (hm : ∀ m ∈ ms, ∀ index b tab, m.deed ≠ .start (.top index) b tab) :
    Announced ms := by
  rintro pre m post index b tab rfl hd
  exact absurd hd (hm m (by simp) index b tab)

omit [Clock T] in
theorem Announced.of_inner (hm : ∀ m ∈ ms, m.deed.isInner = true) : Announced ms := by
  refine .of_not_start fun m hmem index b tab hd => ?_
  have hi := hm m hmem
  rw [hd] at hi
  cases hi

omit [Clock T] in
theorem Announced.nil : Announced ([] : List (Moment W T)) :=
  .of_inner fun _ hm => absurd hm List.not_mem_nil

omit [Clock T] in
theorem Announced.append (hm : Announced ms) (hm' : Announced ms') : Announced (ms ++ ms') := by
  intro pre m post index b tab he hd
  obtain ⟨as, rfl, hs⟩ | ⟨bs, hs, he⟩ := List.append_eq_append_iff.1 he
  · obtain ⟨pre', m₀, st, rfl, hm₀⟩ := hm' as m post index b tab hs hd
    exact ⟨ms ++ pre', m₀, st, (List.append_assoc ..).symm, hm₀⟩
  · cases bs with
    | nil =>
      obtain ⟨pre', m₀, st, hn, -⟩ := hm' [] m post index b tab he.symm hd
      exact absurd hn (by simp)
    | cons m' bs =>
      obtain ⟨rfl, -⟩ := List.cons.inj he
      exact hm pre m bs index b tab hs hd

omit [Clock T] in
theorem Announced.head {index : Nat} {b : Block} (hs : s.control.stopped = false) :
    Announced (Run.unitHead a index b tab s p) := by
  intro pre m post i c t he hd
  match pre with
  | [] =>
    cases he
    cases hd
  | [_] =>
    cases he
    cases hd
  | [_, _] =>
    cases he
    cases hd
    exact ⟨[_], _, _, rfl, rfl, hs⟩
  | _ :: _ :: _ :: pre =>
    have hlen := congrArg List.length he
    simp only [Run.unitHead, List.length_append, List.length_cons, List.length_nil] at hlen
    omega

theorem Scan.announced {index : Nat} {r : Result W T TabRef}
    (hc : Scan a h ds index tab s p ms r) : Announced ms := by
  induction hc with
  | ended hi => exact .nil
  | stopped hb hs => exact .nil
  | disabled hb hs he hc ih => exact ih
  | leftOut hb hs he hk hc ih =>
    refine Announced.append (show Announced [_, _] from .of_not_start ?_) ih
    exact List.forall_mem_cons.2 ⟨nofun, List.forall_mem_singleton.2 nofun⟩
  | broke hb hs he hk hu =>
    refine (Announced.append (.head hs) (.of_inner (hu.inside hk).inner)).append ?_
    exact .of_not_start (List.forall_mem_singleton.2 nofun)
  | ran hb hs he hk hu hc ih =>
    refine (Announced.append (.head hs) (.of_inner (hu.inside hk).inner)).append ?_
    refine Announced.append (show Announced [_] from .of_not_start ?_) ih
    exact List.forall_mem_singleton.2 nofun

/-! ## The block that ends a run -/

/-- A course that ends with the block at a top-level position, from its start on. -/
def EndsIn (ms : List (Moment W T)) (index : Nat) (b : Block) (e : Halt) : Prop :=
  ∃ pre mid tab s p s' p', ms = pre ++ ⟨.start (.top index) b tab, s, p⟩ :: mid ++
    [⟨.finish (.top index) b e.outcome, s', p'⟩] ∧ ∀ m ∈ mid, m.deed.isInner = true

omit [Clock T] in
theorem EndsIn.append {index : Nat} {b : Block} {e : Halt} (ms : List (Moment W T))
    (hm : EndsIn ms' index b e) : EndsIn (ms ++ ms') index b e := by
  obtain ⟨pre, mid, tab, s, p, s', p', rfl, hi⟩ := hm
  exact ⟨ms ++ pre, mid, tab, s, p, s', p', by simp only [List.append_assoc], hi⟩

theorem Scan.endsIn {index : Nat} {r : Result W T TabRef} {e : Halt}
    (hc : Scan a h ds index tab s p ms r) (hr : r.1 = e.outcome) : ∃ i b, EndsIn ms i b e := by
  induction hc with
  | ended hi => exact absurd hr (Halt.done_ne_outcome e _)
  | stopped hb hs => exact absurd hr (Halt.done_ne_outcome e _)
  | disabled hb hs he hc ih => exact ih hr
  | leftOut hb hs he hk hc ih =>
    obtain ⟨i, b, hm⟩ := ih hr
    exact ⟨i, b, hm.append [_, _]⟩
  | @broke index b tab s p ms s' p' e' hb hs he hk hu =>
    cases Halt.outcome_inj hr
    exact ⟨index, b, [_, _], ms, tab, _, _, s', p', rfl, (hu.inside hk).inner⟩
  | ran hb hs he hk hu hc ih =>
    obtain ⟨i, b, hm⟩ := ih hr
    refine ⟨i, b, ?_⟩
    rw [List.append_cons]
    exact hm.append _

end Course

def Deed.isStart : Deed → Bool
  | .start _ _ _ => true
  | _ => false

/-- How a run with these moments and this outcome deals with stops. -/
structure Course.HonoursStop (a : Assignment) (ms : List (Moment W T)) (o : Outcome RunStatus) :
    Prop where
  /-- A stop counts whenever it is asked for, -/
  counts : ∀ m ∈ ms, ∀ rs, Request.stop ∈ rs → (m.scene.control.receiveAll rs).stopped = true
  /-- and from then on. -/
  kept : ms.Pairwise fun m m' => m.isStopped = true → m'.isStopped = true
  /-- No block starts after a moment at which it was asked for. -/
  starts : ∀ pre m post, ms = pre ++ m :: post → m.isStopped = true →
    ∀ m' ∈ post, m'.deed.isStart = false
  /-- A start at such a moment is that of a top-level block which was just announced. -/
  announced : ∀ pre m post, ms = pre ++ m :: post → m.isStopped = true → m.deed.isStart = true →
    ∃ pre' m₀ st index b tab, pre = pre' ++ [m₀] ∧ m₀.isStopped = false ∧
      m₀.deed = .report (.unit index) st ∧ m.deed = .start (.top index) b tab
  /-- Nothing is reported at such a moment but the end of the run. -/
  reports : ∀ m ∈ ms, m.isStopped = true → ∀ topic st, m.deed = .report topic st →
    topic = .closing
  /-- The run is completed, or it ends with a top-level block that fails or never ends; whenever a
  stop was asked for, this block was under way or just announced. -/
  ends : (∃ st, o = .done st ∧ st.state = .completed ∧ st.current = a.flow.enabledCount) ∨
    ∃ pre mid last index b tab s p s' p' e,
      ms = pre ++ ⟨.start (.top index) b tab, s, p⟩ :: mid ++
        ⟨.finish (.top index) b (Halt.outcome e), s', p'⟩ :: last ∧
      (∀ m ∈ pre, m.isStopped = false) ∧ (∀ m ∈ mid, m.deed.isInner = true) ∧
      ((∃ f st, e = .failed f ∧ o = .done st ∧ st.state = .error ∧ st.error = some f.message) ∨
        e = .endless ∧ o = .endless)

namespace Course
variable {a : Assignment} {h : Host W T} {tab : TabRef} {s : Scene W T} {p : Progress T}
  {ms : List (Moment W T)} {r : Result W T RunStatus}

theorem Flow.announced {ds : List T} (hc : Flow a h ds tab s p ms r) : Announced ms := by
  obtain ⟨ms, r, last, rfl, hc, hlast⟩ := hc.opened
  have hopening : Announced [⟨.report .opening (Run.openingStatus a p.reached), s, p⟩] :=
    .of_not_start (List.forall_mem_singleton.2 nofun)
  refine .append (hopening.append (Scan.announced hc)) ?_
  · obtain rfl | ⟨st, s', p', rfl⟩ := hlast
    · exact .nil
    · exact .of_not_start (List.forall_mem_singleton.2 nofun)

theorem Flow.kept {ds : List T} (hc : Flow a h ds tab s p ms r) :
    ms.Pairwise fun m m' => m.isStopped = true → m'.isStopped = true := by
  have hpairs := (hc.along (steady_control a h) fun _ _ => ⟨[], rfl⟩).pairs
  refine hpairs.imp fun {m m'} hr hs => ?_
  obtain ⟨rs, hr⟩ := hr
  have hcontrol : m'.scene.control = m.scene.control.receiveAll rs := hr
  rw [Moment.isStopped, hcontrol]
  exact Control.receiveAll_stopped _ rs hs

/-- The blocks of a body start with no stop asked for, so a stopped start is one at the top
level. -/
theorem Flow.start_top {ds : List T} (hc : Flow a h ds tab s p ms r) {m : Moment W T}
    (hm : m ∈ ms) (hs : m.isStopped = true) (hd : m.deed.isStart = true) :
    ∃ index b t, m.deed = .start (.top index) b t := by
  obtain hsound | ⟨st, ho, -⟩ | ⟨st, ho⟩ := hc.sound m hm
  · obtain ⟨deed, s₁, p₁⟩ := m
    cases deed with
    | start scope b t =>
      cases scope with
      | top index => exact ⟨index, b, t, rfl⟩
      | body n =>
        have hrunning : (⟨.start (.body n) b t, s₁, p₁⟩ : Moment W T).isStopped = false := hsound
        rw [hrunning] at hs
        cases hs
    | _ => cases hd
  · rw [ho] at hd
    cases hd
  · rw [ho] at hd
    cases hd

theorem Flow.reports_stopped {ds : List T} (hc : Flow a h ds tab s p ms r)
    (h0 : s.control.stopped = false) {m : Moment W T} (hm : m ∈ ms) (hs : m.isStopped = true)
    {topic : Topic} {st : RunStatus} (hd : m.deed = .report topic st) : topic = .closing := by
  obtain hsound | ⟨st, ho, hscene⟩ | ⟨st, ho⟩ := hc.sound m hm
  · unfold Moment.Sound at hsound
    rw [hd] at hsound
    rw [hsound.1] at hs
    cases hs
  · rw [Moment.isStopped, hscene, h0] at hs
    cases hs
  · rw [hd] at ho
    cases ho
    rfl

/-- No block starts after a stopped moment: the moment before the start is one with no stop. -/
theorem Flow.no_start {ds : List T} (hc : Flow a h ds tab s p ms r) {pre post : List (Moment W T)}
    {m m' : Moment W T} (he : ms = pre ++ m :: post) (hs : m.isStopped = true) (hm : m' ∈ post) :
    m'.deed.isStart = false := by
  rw [Bool.eq_false_iff]
  intro hd
  obtain ⟨mid, last, rfl⟩ := List.append_of_mem hm
  have hkept := hc.kept
  rw [he] at hkept
  have hlater := (List.pairwise_cons.1 (List.pairwise_append.1 hkept).2.1).1
  have hmem : m' ∈ ms := by
    rw [he]
    simp
  obtain ⟨index, b, t, hstart⟩ := hc.start_top hmem (hlater m' hm hs) hd
  have hsplit : ms = (pre ++ m :: mid) ++ m' :: last := by
    rw [he, List.append_assoc]
    rfl
  obtain ⟨pre', m₀, st, hpre, -, hrunning⟩ := hc.announced _ m' last index b t hsplit hstart
  -- the moment before the start is `m` or comes after it
  have hstopped : m₀.isStopped = true := by
    have hlast := congrArg List.getLast? hpre
    rw [List.getLast?_append, List.getLast?_concat, List.getLast?_cons, Option.some_or] at hlast
    cases hmid : mid.getLast? with
    | none =>
      rw [hmid] at hlast
      cases hlast
      exact hs
    | some m₁ =>
      rw [hmid] at hlast
      cases hlast
      have hin := List.mem_of_getLast? hmid
      exact hlater m₁ (by simp [hin]) hs
  rw [hrunning] at hstopped
  cases hstopped

/-- With which block a run ends that is not completed. -/
theorem Flow.ends (hc : Flow a h [] tab s p ms r) :
    (∃ st, r.1 = .done st ∧ st.state = .completed ∧ st.current = a.flow.enabledCount) ∨
      ∃ body last index b e, ms = body ++ last ∧ EndsIn body index b e ∧
        ((∃ f st, e = .failed f ∧ r.1 = .done st ∧ st.state = .error ∧
          st.error = some f.message) ∨ e = .endless ∧ r.1 = .endless) := by
  cases hc with
  | completed hc => exact .inl ⟨_, rfl, rfl, rfl⟩
  | @failed ms f s' p' hc =>
    obtain ⟨index, b, hm⟩ := Scan.endsIn (e := .failed f) hc rfl
    exact .inr ⟨_, _, index, b, .failed f, rfl, hm.append [_], .inl ⟨f, _, rfl, rfl, rfl, rfl⟩⟩
  | @lost ms s' p' e he hc =>
    obtain ⟨index, b, hm⟩ := Scan.endsIn hc rfl
    refine .inr ⟨_, [], index, b, e, (List.append_nil _).symm, hm.append [_], .inr ?_⟩
    cases e with
    | failed f => exact absurd rfl (he f)
    | expired k => exact absurd (Scan.lt_of_expired hc rfl) (Nat.not_lt_zero k)
    | endless => exact ⟨rfl, rfl⟩

theorem Flow.honoursStop (hc : Flow a h [] tab s p ms r) (h0 : s.control.stopped = false)
    (hactive : s.control.active.isSome = true) : HonoursStop a ms r.1 where
  counts m hm rs hrs := by
    obtain ⟨rs', hr⟩ := (hc.along (steady_control a h) fun _ _ => ⟨[], rfl⟩).first m hm
    refine Control.receiveAll_stop ?_ hrs
    have hcontrol : m.scene.control = s.control.receiveAll rs' := hr
    rw [hcontrol, Control.receiveAll_active]
    exact hactive
  kept := hc.kept
  starts pre m post he hs m' hm := hc.no_start he hs hm
  announced pre m post he hs hd := by
    have hm : m ∈ ms := by
      rw [he]
      simp
    obtain ⟨index, b, t, hstart⟩ := hc.start_top hm hs hd
    obtain ⟨pre', m₀, st, hpre, hreport, hrunning⟩ := hc.announced pre m post index b t he hstart
    exact ⟨pre', m₀, st, index, b, t, hpre, hrunning, hreport, hstart⟩
  reports m hm hs topic st hd := hc.reports_stopped h0 hm hs hd
  ends := by
    obtain hdone | ⟨body, last, index, b, e, he, hm, ho⟩ := hc.ends
    · exact .inl hdone
    · obtain ⟨pre, mid, t, s₁, p₁, s₂, p₂, rfl, hi⟩ := hm
      rw [List.append_assoc] at he
      refine .inr ⟨pre, mid, last, index, b, t, s₁, p₁, s₂, p₂, e, he, ?_, hi, ho⟩
      have hsplit : ms = pre ++ ⟨.start (.top index) b t, s₁, p₁⟩ ::
          (mid ++ ⟨.finish (.top index) b e.outcome, s₂, p₂⟩ :: last) := by
        rw [he, List.append_assoc]
        rfl
      obtain ⟨pre', m₀, st, rfl, -, hrunning⟩ := hc.announced _ _ _ index b t hsplit rfl
      have hkept := hc.kept
      rw [hsplit, List.append_assoc, List.pairwise_append] at hkept
      refine List.forall_mem_append.2 ⟨fun m hm => ?_, List.forall_mem_singleton.2 hrunning⟩
      rw [Bool.eq_false_iff]
      intro hs
      have hstopped := hkept.2.2 m hm m₀ (by simp) hs
      rw [hrunning] at hstopped
      cases hstopped

end Course

/-- Every run of an engine honours a stop, at whatever moment it is asked for. -/
theorem Engine.run_honoursStop (e : Engine) (host : Host W T) (flow : Flow) (tab : TabRef)
    (sink : Option Sink) (initial : List (String × Value)) (world : W) (now : T) :
    ((∃ ms, e.RunsThrough host flow tab sink initial world now ms) ∧
      ∀ ms, e.RunsThrough host flow tab sink initial world now ms →
        Course.HonoursStop ⟨flow, e.engagement, sink⟩ ms
          (e.result host flow tab sink initial world now).1) ∧
      Run.Uninterrupted ⟨flow, e.engagement, sink⟩ W T :=
  ⟨⟨e.exists_runsThrough .., fun _ hms => hms.honoursStop rfl rfl⟩, Run.uninterrupted _⟩

end BrowserFlow
