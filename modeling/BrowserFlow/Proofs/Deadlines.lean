import BrowserFlow.Proofs.Attention
import BrowserFlow.Proofs.Items
import BrowserFlow.Proofs.Loading
import BrowserFlow.Proofs.Reports

/-!
Deadlines of runs. A top-level block, a whole repeater included, has a limited time, whatever
spends it: the host, a page, waits, polls or retries. By then it is over; when it is cut off, the
run ends at that moment with a report that names the block. Time is counted exactly, and waits for
elements pause between their polls.

* `Course.UnitIn`: a top-level block in the course of a run, from its start to its end.
* `Course.KeepsLimit`: what its deadline means for it and for the run.
* `Engine.run_meetsDeadlines`: every top-level block of every run keeps its limit.
-/
namespace BrowserFlow
set_option autoImplicit false
open Activity

variable {W T α β : Type}

/-! ## Runs are timely -/

theorem Activity.Timely.attentive {pollMs : Int} (hp : 1 ≤ pollMs) :
    Attentive pollMs fun _ _ (x _ : Activity W Rat _ _) => Timely x where
  toComposed := Timely.composed hp
  stopped := .instant fun _ _ s _ => ⟨rfl, .inl ⟨s.control.stopped, rfl⟩⟩
  stop := .instant fun _ _ _ _ => ⟨rfl, .inl ⟨(), rfl⟩⟩
  ensuring f hx := hx.ensuring f

namespace Course

/-! ## Blocks that decide the end -/

/-- A block in a part of a run that ends with `r`: it starts before the deadlines, and when it
gives no value, the part ends with it. -/
structure Decisive (a : Assignment) (h : Host W Rat) (ds : List Rat) (b : Block) (tab : TabRef)
    (s : Scene W Rat) (p : Progress Rat) (r : Result W Rat α) : Prop where
  before : Before s.now ds
  ends : ∀ (e : Halt) (s' : Scene W Rat) (p' : Progress Rat),
    Run.block a b tab h ds s p = (e.outcome, s', p') → r.1 = e.outcome ∧ r.2.1 = s'

section Decisive
variable {a : Assignment} {h : Host W Rat} {ds : List Rat} {tab : TabRef} {s : Scene W Rat}
  {p : Progress Rat} {ms : List (Moment W Rat)}

theorem Decisive.part {b : Block} {r : Result W Rat α} {r' : Result W Rat β}
    (hb : Decisive a h ds b tab s p r)
    (hr : ∀ e : Halt, r.1 = e.outcome → r'.1 = e.outcome ∧ r'.2.1 = r.2.1) :
    Decisive a h ds b tab s p r' where
  before := hb.before
  ends e s' p' he := by
    obtain ⟨ho, hs⟩ := hb.ends e s' p' he
    obtain ⟨ho', hs'⟩ := hr e ho
    exact ⟨ho', hs'.trans hs⟩

variable (hp : 1 ≤ a.engagement.config.elementPollMs)
include hp

theorem Blocks.decisive {n : Nat} {f : Block → Block} {bs : List Block} {r : Result W Rat TabRef}
    (hc : Blocks a h n f ds bs tab s p ms r) (hnow : Before s.now ds) {m : Moment W Rat}
    (hm : m ∈ ms) {k : Nat} {c : Block} {t : TabRef} (hd : m.deed = .start (.body k) c t) :
    Decisive a h ds c t m.scene m.progress r := by
  induction hc with
  | nil => cases hm
  | stopped hs => cases hm
  | disabled hs hb hc ih => exact ih hnow hm
  | leftOut hs hb hk hc ih =>
    obtain rfl | hm := List.mem_cons.1 hm
    · cases hd
    · exact ih hnow hm
  | broke hs hb hk hr =>
    obtain rfl | hm := List.mem_cons.1 hm
    · cases hd
      refine ⟨hnow, fun e' s₁ p₁ he => ?_⟩
      obtain ⟨ho, hrest⟩ := Prod.mk.inj (hr.symm.trans he)
      exact ⟨ho, congrArg Prod.fst hrest⟩
    · obtain rfl := List.mem_singleton.1 hm
      cases hd
  | @ran b rest tab s p tab' s' p' ms r hs hb hk hr hc ih =>
    obtain ⟨-, hend⟩ := ((Timely.composed hp).block trivial (f b) tab) h ds s p hnow
    rw [hr] at hend
    obtain rfl | hm := List.mem_cons.1 hm
    · cases hd
      refine ⟨hnow, fun e' s₁ p₁ he => ?_⟩
      exact absurd (congrArg Prod.fst (hr.symm.trans he)) (Halt.done_ne_outcome _ _)
    · obtain rfl | hm := List.mem_cons.1 hm
      · cases hd
      · exact ih hend hm

theorem Passes.decisive {ρ : Repeater.Rounds} {body : List Block} {done left : Nat}
    {r : Result W Rat (TabRef × Nat)} (hc : Passes a h ρ body ds done left tab s p ms r)
    (hnow : Before s.now ds) {m : Moment W Rat} (hm : m ∈ ms) {k : Nat} {c : Block} {t : TabRef}
    (hd : m.deed = .start (.body k) c t) : Decisive a h ds c t m.scene m.progress r := by
  -- one pass: when it is over the deadlines are still ahead, and its own blocks decide its end
  have pass {n : Nat} {tab : TabRef} {s : Scene W Rat} {p : Progress Rat}
      {ms : List (Moment W Rat)} {o : Outcome TabRef} {s' : Scene W Rat} {p' : Progress Rat}
      (hpass : Pass a h ρ body ds n tab s p ms (o, s', p')) (hnow : Before s.now ds) :
      InTime ds s'.now o ∧ (m ∈ ρ.head a n s p ++ ms ++ [⟨.leave n, s', p'.settled⟩] →
        Decisive a h ds c t m.scene m.progress ((o, s', p') : Result W Rat TabRef)) := by
    have hheard : Before (Run.heard a (ρ.status a n p.reached) s).now ds := by
      rw [Run.heard_now]
      exact hnow
    constructor
    · obtain ⟨-, hend⟩ := (Timely.attentive hp).blocks (ρ.transform n) body tab h ds
        (Run.heard a (ρ.status a n p.reached) s)
        ((ρ.bound n p).reporting (ρ.status a n p.reached) s.now) hheard
      rw [Blocks.result_eq hpass] at hend
      exact hend
    · intro hm
      obtain hm | hm := List.mem_append.1 hm
      · obtain hm | hm := List.mem_append.1 hm
        · obtain rfl | hm := List.mem_cons.1 hm
          · cases hd
          · obtain rfl := List.mem_singleton.1 hm
            cases hd
        · exact Blocks.decisive hp hpass hheard hm hd
      · obtain rfl := List.mem_singleton.1 hm
        cases hd
  induction hc with
  | ended => cases hm
  | stopped hs => cases hm
  | broke hs hpass =>
    refine ((pass hpass hnow).2 hm).part fun e he => ?_
    cases Halt.outcome_inj he
    exact ⟨rfl, rfl⟩
  | cutShort hs hpass hs' =>
    exact ((pass hpass hnow).2 hm).part fun e he => absurd he (Halt.done_ne_outcome _ _)
  | next hs hpass hs' hc ih =>
    obtain ⟨hend, hdecisive⟩ := pass hpass hnow
    rw [List.append_cons] at hm
    obtain hm | hm := List.mem_append.1 hm
    · exact (hdecisive hm).part fun e he => absurd he (Halt.done_ne_outcome _ _)
    · exact ih hend hm

theorem Repeater.decisive {prep : Run W Rat Repeater.Setup} (hprep : Timely prep)
    {r : Result W Rat RepeaterResult} (hc : Repeater a h prep ds tab s p ms r)
    (hnow : Before s.now ds) {m : Moment W Rat} (hm : m ∈ ms) {k : Nat} {c : Block} {t : TabRef}
    (hd : m.deed = .start (.body k) c t) : Decisive a h ds c t m.scene m.progress r := by
  cases hc with
  | unready hu => cases hm
  | ready hu hc =>
    obtain ⟨-, hend⟩ := hprep h ds s p hnow
    rw [hu] at hend
    refine (hc.decisive hp hend hm hd).part fun e he => ⟨?_, rfl⟩
    rw [he, Outcome.map_halt]

end Decisive

/-! ## Top-level blocks -/

/-- The blocks that a top-level block with these moments of its own hands over to be run, in which
tab and state: itself, or those of its body when it is a repeater. -/
inductive HandsOver (h : Host W T) (b : Block) (tab : TabRef) (s : Scene W T) (p : Progress T)
    (own : List (Moment W T)) : Block → TabRef → Scene W T → Progress T → Prop
  | itself : b.isRepeater = false → HandsOver h b tab s p own b tab (yielded h s) p
  | ofBody {n : Nat} {c : Block} {t : TabRef} {s' : Scene W T} {p' : Progress T} :
      ⟨.start (.body n) c t, s', p'⟩ ∈ own → HandsOver h b tab s p own c t s' p'

/-- During a top-level block the page in a tab was asked for, and the wait until it has loaded
begins in this scene. -/
inductive AwaitsLoad (a : Assignment) (h : Host W T) [Clock T] (b : Block) (tab : TabRef)
    (s : Scene W T) (p : Progress T) (own : List (Moment W T)) : TabRef → Scene W T → Prop
  | intro {inner : List T} {c : Block} {t t' : TabRef} {s₁ s₂ : Scene W T} {p₁ : Progress T}
      {kind : BlockKind} {x : Errand W T TabRef} (started : Run.unitBudget? a h [] s = some inner)
      (handed : HandsOver h b tab s p own c t s₁ p₁) (isKind : c.kind? = some kind)
      (goes : Step.arrive? kind (Template.interpolateAll p₁.store c.params) t = some x)
      (arrived : x h inner s₁ () = (.done t', s₂, ())) : AwaitsLoad a h b tab s p own t' s₂

section Units
variable {a : Assignment} {h : Host W Rat} {ds : List Rat} {index : Nat} {b : Block} {tab : TabRef}
  {s : Scene W Rat} {p : Progress Rat} {own : List (Moment W Rat)}
  {r : Result W Rat (Nat × TabRef)} (hp : 1 ≤ a.engagement.config.elementPollMs)
include hp

theorem Unit.decisive (hc : Unit a h ds index b tab s p own r) (hnow : Before s.now ds)
    {inner : List Rat} (hb : Run.unitBudget? a h ds s = some inner) {c : Block} {t : TabRef}
    {s₁ : Scene W Rat} {p₁ : Progress Rat} (hh : HandsOver h b tab s p own c t s₁ p₁) :
    ∃ r' : Result W Rat (Nat × TabRef), Decisive a h inner c t s₁ p₁ r' ∧
      r.1 = capped ds.length (Run.late a b) r'.1 ∧ r.2 = r'.2 := by
  have hbefore : Before (yielded h s).now inner := budget?_before hb hnow
  cases hc with
  | late hlate =>
    rw [hb] at hlate
    cases hlate
  | @single inner' r hk hb' hr =>
    cases hb.symm.trans hb'
    cases hh with
    | itself =>
      refine ⟨(r.1.map fun tab => (index + 1, tab), r.2), ⟨hbefore, fun e s' p' he => ?_⟩,
        capped_map .., rfl⟩
      rw [← hr, he, Outcome.map_halt]
      exact ⟨rfl, rfl⟩
    | ofBody hm => cases hm
  | @repeated prep inner' own r hprep hb' hc =>
    cases hb.symm.trans hb'
    cases hh with
    | itself hk => exact absurd (Repeater.isRepeater_of_setup? hprep) (by rw [hk]; nofun)
    | ofBody hm =>
      have hdecisive := hc.decisive hp ((Timely.composed hp).setup hprep) hbefore hm rfl
      refine ⟨(r.1.map fun q => ((q.lastIndex + 1).toNat, q.tab), r.2),
        hdecisive.part fun e he => ⟨?_, rfl⟩, capped_map .., rfl⟩
      rw [he, Outcome.map_halt]

/-- A wait for a page that gives no value is the end of the top-level block. -/
theorem Unit.of_awaitsLoad (hc : Unit a h [] index b tab s p own r) {t : TabRef}
    {s₂ : Scene W Rat} (hw : AwaitsLoad a h b tab s p own t s₂) :
    ∃ inner, inner = (deadline? a.engagement.config.blockTimeoutSec s.now).toList ∧
      Before s₂.now inner ∧ ∀ (e : Halt) (s' : Scene W Rat),
        Step.awaitLoad a.engagement t h inner s₂ () = (e.outcome, s', ()) →
          r.1 = capped 0 (Run.late a b) e.outcome ∧ r.2.1 = s' := by
  obtain @⟨inner, c, t', _, s₁, _, p₁, kind, x, hb, hh, hk, hx, ha⟩ := hw
  obtain ⟨r', hdecisive, ho, hs⟩ := hc.decisive hp nofun hb hh
  obtain ⟨-, hend⟩ := Step.arrive?_timely hx h inner s₁ () hdecisive.before
  rw [ha] at hend
  refine ⟨inner, (budget?_eq_some hb).1, hend, fun e s' he => ?_⟩
  obtain ⟨ho', hs'⟩ := hdecisive.ends e s' p₁ (Run.block_of_awaitLoad hk hx ha he)
  rw [ho, ho', hs]
  exact ⟨rfl, hs'⟩

end Units

/-! ## Top-level blocks of a run -/

/-- In these moments a top-level block starts at `m`, has `own` as its moments and ends with `r`. -/
structure UnitIn [Clock T] (a : Assignment) (h : Host W T) (ds : List T) (ms : List (Moment W T))
    (m : Moment W T) (index : Nat) (b : Block) (tab : TabRef) (own : List (Moment W T))
    (r : Result W T (Nat × TabRef)) : Prop where
  course : Unit a h ds index b tab m.scene m.progress own r
  split : ∃ pre post, ms =
    pre ++ m :: (own ++ ⟨.finish (.top index) b (r.1.map (·.2)), r.2.1, r.2.2⟩ :: post)

section Runs
variable [Clock T] {a : Assignment} {h : Host W T} {ds : List T} {index : Nat} {b : Block}
  {tab t : TabRef} {s : Scene W T} {p : Progress T} {ms own : List (Moment W T)} {m : Moment W T}

theorem UnitIn.prepend {r : Result W T (Nat × TabRef)} (hu : UnitIn a h ds ms m index b t own r)
    (before : List (Moment W T)) : UnitIn a h ds (before ++ ms) m index b t own r where
  course := hu.course
  split := by
    obtain ⟨pre, post, rfl⟩ := hu.split
    exact ⟨before ++ pre, post, (List.append_assoc ..).symm⟩

theorem UnitIn.append {r : Result W T (Nat × TabRef)} (hu : UnitIn a h ds ms m index b t own r)
    (after : List (Moment W T)) : UnitIn a h ds (ms ++ after) m index b t own r where
  course := hu.course
  split := by
    obtain ⟨pre, post, rfl⟩ := hu.split
    exact ⟨pre, post ++ after, by simp only [List.append_assoc, List.cons_append]⟩

theorem Started.unitIn {i : Nat} {c : Block} {r : Result W T (Nat × TabRef)}
    (hc : Started a h ds i c tab s p own r) (hk : p.skips = 0)
    (hm : m ∈ Run.unitHead a i c tab s p ++ own) (hd : m.deed = .start (.top index) b t)
    (post : List (Moment W T)) :
    UnitIn a h ds (Run.unitHead a i c tab s p ++ own ++
      ⟨.finish (.top i) c (r.1.map (·.2)), r.2.1, r.2.2⟩ :: post) m index b t own r := by
  obtain hm | hm := List.mem_append.1 hm
  · obtain rfl | hm := List.mem_cons.1 hm
    · cases hd
    obtain rfl | hm := List.mem_cons.1 hm
    · cases hd
    obtain rfl := List.mem_singleton.1 hm
    cases hd
    exact ⟨hc, [_, _], post, by rw [List.append_assoc]; rfl⟩
  · -- the moments between its start and its end are those of a body
    have hinner := (hc.inside hk).inner m hm
    rw [hd] at hinner
    cases hinner

/-- A top-level block that starts in a scan is over in it, and the scan ends with a block that gives
no value. -/
theorem Scan.unitIn {i : Nat} {r : Result W T TabRef} (hc : Scan a h ds i tab s p ms r)
    (hm : m ∈ ms) (hd : m.deed = .start (.top index) b t) :
    ∃ own r', UnitIn a h ds ms m index b t own r' ∧
      ∀ e : Halt, r'.1 = e.outcome → r = (e.outcome, r'.2) := by
  induction hc with
  | ended hi => cases hm
  | stopped hb hs => cases hm
  | disabled hb hs he hc ih => exact ih hm
  | leftOut hb hs he hk hc ih =>
    obtain rfl | hm := List.mem_cons.1 hm
    · cases hd
    obtain rfl | hm := List.mem_cons.1 hm
    · cases hd
    obtain ⟨own, r', hu, hr⟩ := ih hm
    exact ⟨own, r', hu.prepend [_, _], hr⟩
  | @broke i c tab s p own s' p' e hb hs he hk hu =>
    obtain hm | hm := List.mem_append.1 hm
    · have hin := hu.unitIn hk hm hd []
      rw [Outcome.map_halt] at hin
      refine ⟨own, _, hin, fun e' he' => ?_⟩
      cases Halt.outcome_inj he'
      rfl
    · obtain rfl := List.mem_singleton.1 hm
      cases hd
  | @ran i c tab s p own next tab' s' p' ms r hb hs he hk hu hc ih =>
    obtain hm | hm := List.mem_append.1 hm
    · refine ⟨own, _, hu.unitIn hk hm hd ms, fun e' he' => ?_⟩
      exact absurd he' (Halt.done_ne_outcome _ _)
    · obtain rfl | hm := List.mem_cons.1 hm
      · cases hd
      · obtain ⟨own', r', hin, hr⟩ := ih hm
        refine ⟨own', r', ?_, hr⟩
        rw [List.append_cons]
        exact hin.prepend _

/-- A run in which a top-level block fails ends with the report of this fault. -/
theorem Flow.unitIn {r : Result W T RunStatus} (hc : Flow a h ds tab s p ms r) (hm : m ∈ ms)
    (hd : m.deed = .start (.top index) b t) :
    ∃ own r', UnitIn a h ds ms m index b t own r' ∧ ∀ f, r'.1 = .failed f →
      r = (.done (Run.errorStatus a f r'.2.2.reached),
        Run.heard a (Run.errorStatus a f r'.2.2.reached) r'.2.1,
        r'.2.2.reporting (Run.errorStatus a f r'.2.2.reached) r'.2.1.now) := by
  have hopening {st : RunStatus} {s : Scene W T} {p : Progress T} {ms : List (Moment W T)}
      (hm : m ∈ ⟨.report .opening st, s, p⟩ :: ms) : m ∈ ms := by
    obtain rfl | hm := List.mem_cons.1 hm
    · cases hd
    · exact hm
  have hclosing {st : RunStatus} {s : Scene W T} {p : Progress T} {ms : List (Moment W T)}
      (hm : m ∈ ms ++ [⟨.report .closing st, s, p⟩]) : m ∈ ms := by
    obtain hm | hm := List.mem_append.1 hm
    · exact hm
    · obtain rfl := List.mem_singleton.1 hm
      cases hd
  cases hc with
  | completed hc =>
    obtain ⟨own, r', hu, hr⟩ := Scan.unitIn hc (hopening (hclosing hm)) hd
    refine ⟨own, r', (hu.prepend [_]).append _, fun f hf => ?_⟩
    have ho : Outcome.done _ = (Halt.failed f).outcome := congrArg Prod.fst (hr (.failed f) hf)
    exact absurd ho (Halt.done_ne_outcome _ _)
  | failed hc =>
    obtain ⟨own, ⟨o, s', p'⟩, hu, hr⟩ := Scan.unitIn hc (hopening (hclosing hm)) hd
    refine ⟨own, _, (hu.prepend [_]).append _, fun f hf => ?_⟩
    cases hr (.failed f) hf
    rfl
  | lost he hc =>
    obtain ⟨own, r', hu, hr⟩ := Scan.unitIn hc (hopening hm) hd
    refine ⟨own, r', hu.prepend [_], fun f hf => ?_⟩
    exact absurd (Halt.outcome_inj (congrArg Prod.fst (hr (.failed f) hf))) (he f)

end Runs
end Course

/-! ## Runs of an engine -/

/-- After this state a run only reports a fault, and that ends it: the host is asked for nothing
more, no variable is written, and no time passes. All reports before it are running ones. -/
structure RunReport.ClosesWith (report : RunReport W T) (a : Assignment) (f : Fault)
    (s : Scene W T) (p : Progress T) : Prop where
  status : report.status = some (Run.errorStatus a f p.reached)
  events : report.events = p.events ++ [⟨Run.errorStatus a f p.reached, p.position, s.now⟩]
  running : ∀ event ∈ p.events, event.status.state = .running
  store : report.engine.store = p.store
  world : report.world = s.world
  now : report.now = s.now

/-- What the deadline of a top-level block that starts in this state, has `own` as its moments and
ends with `r`, means for it and for the report of the run. -/
structure Course.KeepsLimit (a : Assignment) (h : Host W Rat) (report : RunReport W Rat)
    (index : Nat) (b : Block) (tab : TabRef) (s : Scene W Rat) (p : Progress Rat)
    (own : List (Moment W Rat)) (r : Result W Rat (Nat × TabRef)) : Prop where
  ends : (∃ v, r.1 = .done v) ∨ ∃ f, r.1 = .failed f
  /-- It is over by its deadline. -/
  inLimit : s.now ≤ r.2.1.now ∧
    ∀ d ∈ deadline? a.engagement.config.blockTimeoutSec s.now, r.2.1.now ≤ d
  /-- When it is cut off, this is at its deadline, and it does nothing any more. -/
  abandoned : ∀ s' p',
    CutOff a.engagement.config.blockTimeoutSec (Run.unlimited a index b tab) h [] s p s' p' →
      deadline? a.engagement.config.blockTimeoutSec s.now = some s'.now ∧
        r = (.failed (Run.late a b), s', p') ∧ report.ClosesWith a (Run.late a b) s' p'
  /-- A page that has not loaded fails it as such when the wait for the page is over strictly
  earlier, -/
  unloaded : ∀ t s', AwaitsLoad a h b tab s p own t s' →
    ∀ d ∈ deadline? a.engagement.config.loadTimeoutSec s'.now,
      (∀ d' ∈ deadline? a.engagement.config.blockTimeoutSec s.now, d < d') →
        Step.Loading h t s' d → r.2.1.now = d ∧
          report.ClosesWith a (.loadTimedOut a.engagement.config.loadTimeoutSec t) r.2.1 r.2.2
  /-- and otherwise it is late itself. -/
  late : ∀ t s', AwaitsLoad a h b tab s p own t s' →
    ∀ d ∈ deadline? a.engagement.config.blockTimeoutSec s.now,
      (∀ d' ∈ deadline? a.engagement.config.loadTimeoutSec s'.now, d ≤ d') →
        Step.Loading h t s' d → r.2.1.now = d ∧ report.ClosesWith a (Run.late a b) r.2.1 r.2.2

/-- Every top-level block that starts in the course of a run is over in it and keeps its limit. -/
def Course.KeepsLimits (a : Assignment) (h : Host W Rat) (report : RunReport W Rat)
    (ms : List (Moment W Rat)) : Prop :=
  ∀ m ∈ ms, ∀ index b tab, m.deed = .start (.top index) b tab →
    ∃ own r, UnitIn a h [] ms m index b tab own r ∧
      KeepsLimit a h report index b tab m.scene m.progress own r

theorem Course.Unit.keepsLimit {a : Assignment} {h : Host W Rat} {report : RunReport W Rat}
    {index : Nat} {b : Block} {tab : TabRef} {s : Scene W Rat} {p : Progress Rat}
    {own : List (Moment W Rat)} {r : Result W Rat (Nat × TabRef)}
    (hp : 1 ≤ a.engagement.config.elementPollMs) (hc : Unit a h [] index b tab s p own r)
    (hreport : ∀ f, r.1 = .failed f → report.ClosesWith a f r.2.1 r.2.2) :
    KeepsLimit a h report index b tab s p own r := by
  have hunlimited : Timely (Run.unlimited a index b tab : Run W Rat (Nat × TabRef)) :=
    (Timely.attentive hp).unlimited index b tab
  have hnow : Before s.now [] := nofun
  have hr : Activity.within a.engagement.config.blockTimeoutSec (Run.late a b)
      (Run.unlimited a index b tab) h [] s p = r := by
    rw [← hc.result_eq, Run.unit_eq_within]
    rfl
  obtain ⟨hle, hend⟩ :=
    hunlimited.within a.engagement.config.blockTimeoutSec (Run.late a b) h [] s p hnow
  have hover (d : Rat) (hd : d ∈ deadline? a.engagement.config.blockTimeoutSec s.now) :=
    hunlimited.within_le (Run.late a b) (h := h) (p := p) hnow hd
  rw [hr] at hle hend hover
  refine {
    ends := ?_
    inLimit := ⟨hle, hover⟩
    abandoned := fun s' p' hcut => ?_
    unloaded := fun t s' hw d hd hfirst hpage => ?_
    late := fun t s' hw d hd hlast hpage => ?_ }
  · obtain ⟨o, s', p'⟩ := r
    cases o with
    | done v => exact .inl ⟨v, rfl⟩
    | failed f => exact .inr ⟨f, rfl⟩
    | expired k => exact absurd hend.own (by simp)
    | endless => exact hend.elim
  · -- the scope adds nothing to the state in which it cuts the block off
    have hlate := hr.symm.trans (within_of_cutOff hcut (Run.late a b))
    subst hlate
    exact ⟨hunlimited.deadline?_of_cutOff hnow hcut, rfl, hreport _ rfl⟩
  · obtain ⟨inner, rfl, hbefore, hdecides⟩ := hc.of_awaitsLoad hp hw
    obtain ⟨s₁, hwait, ht⟩ := Step.awaitLoad_late (p := ()) hbefore hd
      (fun d' hd' => hfirst d' (Option.mem_toList.1 hd')) hpage
    obtain ⟨ho, rfl⟩ := hdecides (.failed _) s₁ hwait
    exact ⟨ht, hreport _ ho⟩
  · -- a tie goes to the limit of the block, which is the outer one
    obtain ⟨inner, hinner, hbefore, hdecides⟩ := hc.of_awaitsLoad hp hw
    have hfirst : PassesFirst inner 0 d := by
      rw [hinner, Option.mem_def.1 hd]
      show PassesFirst ([] ++ [d]) ([] : List Rat).length d
      exact PassesFirst.inner nofun
    obtain ⟨s₁, hwait, ht⟩ := Step.awaitLoad_expired (p := ()) hbefore hfirst hlast hpage
    obtain ⟨ho, rfl⟩ := hdecides (.expired 0) s₁ hwait
    exact ⟨ht, hreport _ ho⟩

namespace Engine
variable (e : Engine) (host : Host W T) (flow : Flow) (tab : TabRef) (sink : Option Sink)
  (initial : List (String × Value)) (world : W) (now : T)

theorem closesWith [Clock T] {ms : List (Moment W T)}
    (hms : e.RunsThrough host flow tab sink initial world now ms) {f : Fault} {s : Scene W T}
    {p : Progress T}
    (hr : e.result host flow tab sink initial world now =
      (.done (Run.errorStatus ⟨flow, e.engagement, sink⟩ f p.reached),
        Run.heard ⟨flow, e.engagement, sink⟩
          (Run.errorStatus ⟨flow, e.engagement, sink⟩ f p.reached) s,
        p.reporting (Run.errorStatus ⟨flow, e.engagement, sink⟩ f p.reached) s.now)) :
    (e.run host flow tab sink initial world now).ClosesWith ⟨flow, e.engagement, sink⟩ f s p where
  status := by
    rw [run_status, hr]
  events := by
    rw [run_events, hr]
    rfl
  running := by
    have hevents := hms.events_eq
    unfold RunsThrough at hms
    rw [hr] at hms hevents
    obtain ⟨before, hreports, -, hrunning⟩ := (hms.protocol rfl).ends
    -- all reports but the last are the events up to this state
    have hbefore : p.events.map (·.status) = before := by
      rw [Course.reports, ← List.nil_append (Course.events ms), ← hevents, Progress.reporting,
        List.map_append] at hreports
      exact List.append_cancel_right hreports
    subst hbefore
    exact fun event hevent => hrunning _ (List.mem_map_of_mem hevent)
  store := by
    show (e.result host flow tab sink initial world now).2.2.store = p.store
    rw [hr]
    rfl
  world := by
    show (e.result host flow tab sink initial world now).2.1.world = s.world
    rw [hr]
    exact Run.heard_world ..
  now := by
    show (e.result host flow tab sink initial world now).2.1.now = s.now
    rw [hr]
    exact Run.heard_now ..

/-- Every run ends, and its top-level blocks keep their limits, when waits for elements pause
between their polls. -/
theorem run_meetsDeadlines (e : Engine) (host : Host W Rat) (flow : Flow) (tab : TabRef)
    (sink : Option Sink) (initial : List (String × Value)) (world : W) (now : Rat)
    (hp : 1 ≤ e.engagement.config.elementPollMs) :
    (e.run host flow tab sink initial world now).status.isSome = true ∧
      (∃ ms, e.RunsThrough host flow tab sink initial world now ms) ∧
      ∀ ms, e.RunsThrough host flow tab sink initial world now ms →
        Course.KeepsLimits ⟨flow, e.engagement, sink⟩ host
          (e.run host flow tab sink initial world now) ms := by
  refine ⟨?_, e.exists_runsThrough .., fun ms hms m hm index b t hd => ?_⟩
  · have hflow : Timely (Run.flow ⟨flow, e.engagement, sink⟩ tab : Run W Rat RunStatus) :=
      Attentive.flow (a := ⟨flow, e.engagement, sink⟩) (Timely.attentive hp) tab
    obtain ⟨-, hend⟩ := hflow host [] ⟨world, now, { active := some flow.name }⟩
      { store := Store.ofAssignments initial } nofun
    have hresult : InTime [] (e.result host flow tab sink initial world now).2.1.now
      (e.result host flow tab sink initial world now).1 := hend
    obtain ⟨ms, hms⟩ := e.exists_runsThrough host flow tab sink initial world now
    rw [run_status]
    obtain ⟨st, ho⟩ | ho := hms.done_or_endless
    · rw [ho]
      rfl
    · rw [ho] at hresult
      exact hresult.elim
  · obtain ⟨own, r, hu, hr⟩ := Course.Flow.unitIn hms hm hd
    refine ⟨own, r, hu, hu.course.keepsLimit hp fun f hf => ?_⟩
    exact e.closesWith host flow tab sink initial world now hms (hr f hf)

/-- A host whose pages take longer than any limit. -/
def slowPages : Host Unit Rat :=
  { Repeater.oneItem with
    awaitLoad := fun _ _ world => .sleep world [] 100 fun _ => .done world [] (.ok ()) }

def reloading : Flow where
  name := "reloading"
  blocks := [{ type := .text "refresh" }]

def reloaded : RunReport Unit Rat :=
  ({ engagement := {} } : Engine).run slowPages reloading (some (.number 1)) none [] () 5

/-- Both limits are half a minute, so the one around the other counts. -/
theorem run_meetsDeadlines_slowPages :
    1 ≤ ({} : Engagement).config.elementPollMs ∧
      (∃ ms, ({ engagement := {} } : Engine).RunsThrough slowPages reloading (some (.number 1)) none
          [] () 5 ms ∧ Course.KeepsLimits ⟨reloading, {}, none⟩ slowPages reloaded ms) ∧
      reloaded.now = 35 ∧
      reloaded.status.bind (·.error) = some "Block timed out (30s): 🔄 Refresh" := by
  have hp : 1 ≤ ({} : Engagement).config.elementPollMs := by decide
  obtain ⟨-, ⟨ms, hms⟩, hkeeps⟩ := run_meetsDeadlines { engagement := {} } slowPages reloading
    (some (.number 1)) none [] () 5 hp
  exact ⟨hp, ⟨ms, hms, hkeeps ms hms⟩, by decide +kernel, by decide +kernel⟩

end Engine

end BrowserFlow
