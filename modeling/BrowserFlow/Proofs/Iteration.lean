import BrowserFlow.Proofs.Account
import BrowserFlow.Proofs.Counting
import BrowserFlow.Proofs.Items

/-!
How a repeater iterates. The number of passes is known before the first of them, and nothing that a
block does can change it: the passes are numbered from one on, each is reported once and starts
with its variables bound, and runs the enabled blocks of the body in order, from the tab that the
block before it left.

* `Threaded`: steps one after the other, one for each item of a list.
* `Course.Turn`, `Course.Lap`: an enabled block inside a pass, and a whole pass.
* `Repeater.Iterates`: what holds of all passes of a repeater.
-/
namespace BrowserFlow
set_option autoImplicit false

inductive Threaded {β σ : Type} (R : β → σ → σ → Prop) : List β → σ → σ → Prop
  | nil (x : σ) : Threaded R [] x x
  | cons {b : β} {bs : List β} {x y z : σ} : R b x y → Threaded R bs y z →
      Threaded R (b :: bs) x z

theorem Threaded.imp {β σ : Type} {R R' : β → σ → σ → Prop} (hR : ∀ b x y, R b x y → R' b x y)
    {bs : List β} {x z : σ} (hbs : Threaded R bs x z) : Threaded R' bs x z := by
  induction hbs with
  | nil x => exact .nil x
  | cons hb hbs ih => exact .cons (hR _ _ _ hb) ih

theorem Threaded.append {β σ : Type} {R : β → σ → σ → Prop} {bs bs' : List β} {x y z : σ}
    (hbs : Threaded R bs x y) (hbs' : Threaded R bs' y z) : Threaded R (bs ++ bs') x z := by
  induction hbs with
  | nil x => exact hbs'
  | cons hb hbs ih => exact .cons hb (ih hbs')

/-- Where a run stands between two blocks. -/
structure Station (W T : Type) where
  tab : TabRef
  scene : Scene W T
  progress : Progress T

variable {W T : Type} [Clock T]

namespace Station

/-- A pass begins: its variables are bound, and it is reported. -/
def entering (x : Station W T) (a : Assignment) (ρ : Repeater.Rounds) (n : Nat) : Station W T where
  tab := x.tab
  scene := Run.heard a (ρ.status a n x.progress.reached) x.scene
  progress := (ρ.bound n x.progress).reporting (ρ.status a n x.progress.reached) x.scene.now

/-- A pass is over, and with it what a condition left out. -/
def leaving (x : Station W T) : Station W T := { x with progress := x.progress.settled }

end Station

namespace Course
variable (a : Assignment) (h : Host W T) (ds : List T)

/-- An enabled block is left out as a condition asked for, or it runs from the tab at hand. -/
inductive Turn (f : Block → Block) (b : Block) : Station W T → Station W T → Prop
  | leftOut {tab s p} : 0 < p.skips → Turn f b ⟨tab, s, p⟩ ⟨tab, s, { p with skips := p.skips - 1 }⟩
  | ran {tab s p tab' s' p'} : p.skips = 0 →
      Run.block a (f b) tab h ds s p = (.done tab', s', p') → Turn f b ⟨tab, s, p⟩ ⟨tab', s', p'⟩

/-- The pass with a number: it begins, its enabled blocks have their turns, and it is over. -/
def Lap (ρ : Repeater.Rounds) (body : List Block) (n : Nat) (x y : Station W T) : Prop :=
  ∃ z, Threaded (Turn a h ds (ρ.transform n)) (body.filter (·.enabled)) (x.entering a ρ n) z ∧
    y = z.leaving

variable {a h ds}

/-! ## Passes that were not cut short -/

theorem Blocks.turns {n : Nat} {f : Block → Block} {bs : List Block} {tab tab' : TabRef}
    {s s' : Scene W T} {p p' : Progress T} {ms : List (Moment W T)}
    (hc : Blocks a h n f ds bs tab s p ms (.done tab', s', p')) (hs' : s'.control.stopped = false) :
    Threaded (Turn a h ds f) (bs.filter (·.enabled)) ⟨tab, s, p⟩ ⟨tab', s', p'⟩ := by
  -- a pass that a stop cut short would end where the stop was asked for
  generalize hr : (Outcome.done tab', s', p') = r at hc
  induction hc with
  | nil =>
    cases hr
    exact .nil _
  | stopped hs =>
    cases hr
    rw [hs] at hs'
    cases hs'
  | disabled hs hb hc ih =>
    rw [List.filter_cons_of_neg (by rw [hb]; exact Bool.false_ne_true)]
    exact ih hr
  | leftOut hs hb hk hc ih =>
    rw [List.filter_cons_of_pos hb]
    exact .cons (.leftOut hk) (ih hr)
  | broke hs hb hk hm => exact absurd (congrArg Prod.fst hr) (Halt.done_ne_outcome _ _)
  | ran hs hb hk hm hc ih =>
    rw [List.filter_cons_of_pos hb]
    exact .cons (.ran hk hm) (ih hr)

/-- The passes that were to come have all come, with their numbers in order. -/
theorem Passes.laps {ρ : Repeater.Rounds} {body : List Block} {done left n : Nat}
    {tab tab' : TabRef} {s s' : Scene W T} {p p' : Progress T} {ms : List (Moment W T)}
    (hc : Passes a h ρ body ds done left tab s p ms (.done (tab', n), s', p'))
    (hs' : s'.control.stopped = false) :
    n = done + left ∧
      Threaded (Lap a h ds ρ body) (List.range' (done + 1) left) ⟨tab, s, p⟩ ⟨tab', s', p'⟩ := by
  generalize hr : (Outcome.done (tab', n), s', p') = r at hc
  induction hc with
  | ended =>
    cases hr
    exact ⟨rfl, .nil _⟩
  | stopped hs =>
    cases hr
    rw [hs] at hs'
    cases hs'
  | broke hs hp => exact absurd (congrArg Prod.fst hr) (Halt.done_ne_outcome _ _)
  | cutShort hs hp hstop =>
    cases hr
    rw [hstop] at hs'
    cases hs'
  | next hs hp hgo hc ih =>
    obtain ⟨hn, hlaps⟩ := ih hr
    refine ⟨by omega, ?_⟩
    rw [List.range'_succ]
    exact .cons ⟨_, Blocks.turns hp hgo, rfl⟩ hlaps

/-! ## What no block changes -/

theorem Turn.recounting {f : Block → Block} {b : Block} {x y : Station W T}
    (hb : Turn a h ds f b x y) (count : TabRef → Mapping → Call W T (Option PageResult)) :
    Turn a (h.recounting count) ds f b x y := by
  cases hb with
  | leftOut hk => exact .leftOut hk
  | ran hk hr =>
    refine .ran hk ?_
    rw [Run.block_uncounting]
    exact hr

theorem Lap.recounting {ρ : Repeater.Rounds} {body : List Block} {n : Nat} {x y : Station W T}
    (hn : Lap a h ds ρ body n x y) (count : TabRef → Mapping → Call W T (Option PageResult)) :
    Lap a (h.recounting count) ds ρ body n x y := by
  obtain ⟨z, hz, rfl⟩ := hn
  exact ⟨z, hz.imp fun _ _ _ hb => hb.recounting count, rfl⟩

theorem Turn.reports {f : Block → Block} {b : Block} {x y : Station W T}
    (hb : Turn a h ds f b x y) :
    y.progress.events = x.progress.events ∧ y.progress.reached = x.progress.reached := by
  cases hb with
  | leftOut hk => exact ⟨rfl, rfl⟩
  | @ran tab s p tab' s' p' hk hr =>
    have hchange := Run.block_changes a (f b) tab h ds s p
    rw [hr] at hchange
    exact ⟨hchange.2, hchange.1⟩

theorem turns_report {f : Block → Block} {bs : List Block} {x y : Station W T}
    (hbs : Threaded (Turn a h ds f) bs x y) :
    y.progress.events = x.progress.events ∧ y.progress.reached = x.progress.reached := by
  induction hbs with
  | nil x => exact ⟨rfl, rfl⟩
  | cons hb hbs ih => exact ⟨ih.1.trans hb.reports.1, ih.2.trans hb.reports.2⟩

/-- A pass is reported once, when it begins. -/
theorem Lap.reports {ρ : Repeater.Rounds} {body : List Block} {n : Nat} {x y : Station W T}
    (hn : Lap a h ds ρ body n x y) :
    y.progress.events.map (·.status) =
        x.progress.events.map (·.status) ++ [ρ.status a n x.progress.reached] ∧
      y.progress.reached = x.progress.reached := by
  obtain ⟨z, hz, rfl⟩ := hn
  -- the one report is made on entering; the blocks add none
  obtain ⟨hevents, hreached⟩ := turns_report hz
  refine ⟨?_, hreached⟩
  have hleft : z.leaving.progress.events = z.progress.events := rfl
  rw [hleft, hevents, Station.entering, Progress.reporting, List.map_append]
  rfl

theorem laps_report {ρ : Repeater.Rounds} {body : List Block} {ns : List Nat}
    {x y : Station W T} (hns : Threaded (Lap a h ds ρ body) ns x y) :
    y.progress.events.map (·.status) =
      x.progress.events.map (·.status) ++ ns.map fun n => ρ.status a n x.progress.reached := by
  induction hns with
  | nil x => exact (List.append_nil _).symm
  | cons hn hns ih =>
    obtain ⟨hevents, hreached⟩ := hn.reports
    rw [ih, hevents, hreached, List.append_assoc]
    rfl

end Course

/-! ## What is fixed at the entry -/

namespace Repeater

/-- How many passes a loop has when this stands for its count: as many as it says, or the default
when it says none or less than one. -/
def CountsTo (c : Config) (raw : Value) (n : Nat) : Prop :=
  (∃ k : Int, Parameter.int? raw none = .ok (some k) ∧ 1 ≤ k ∧ n = k.toNat) ∨
    ((Parameter.int? raw none = .ok none ∨
        ∃ k : Int, Parameter.int? raw none = .ok (some k) ∧ k < 1) ∧
      n = c.defaultLoopCount.toNat)

def countOf (store : Store) (b : Block) : Value :=
  Mapping.named (Template.interpolateAll store b.params) "count"

theorem int?_default (raw : Value) (d : Int) :
    Parameter.int? raw (some d) = (Parameter.int? raw none).map fun k => some (k.getD d) := by
  cases raw with
  | null | bool _ | int _ => rfl
  | float x =>
    unfold Parameter.int?
    dsimp only
    cases Parameter.truncate x <;> rfl
  | _ =>
    simp only [Parameter.int?, Except.map]
    cases Parameter.leadingInt? _ <;> rfl

theorem loopCount_eq_ok {c : Config} {raw : Value} {k : Int} (hk : loopCount c raw = .ok k) :
    CountsTo c raw k.toNat := by
  unfold loopCount at hk
  rw [int?_default] at hk
  cases hint : Parameter.int? raw none with
  | error f =>
    rw [hint] at hk
    cases hk
  | ok given =>
    rw [hint] at hk
    cases given with
    | none =>
      have hdefault : k = c.defaultLoopCount := by
        cases hk
        exact ite_self _
      exact .inr ⟨.inl hint, congrArg Int.toNat hdefault⟩
    | some j =>
      have hjk : (if j < 1 then c.defaultLoopCount else j) = k := Except.ok.inj hk
      by_cases hj : j < 1
      · rw [if_pos hj] at hjk
        exact .inr ⟨.inr ⟨j, hint, hj⟩, congrArg Int.toNat hjk.symm⟩
      · rw [if_neg hj] at hjk
        exact .inl ⟨j, hint, by omega, congrArg Int.toNat hjk.symm⟩

theorem CountsTo.pos {c : Config} {raw : Value} {n : Nat} (hn : CountsTo c raw n)
    (hd : 1 ≤ c.defaultLoopCount) : 1 ≤ n := by
  obtain ⟨k, -, hk, rfl⟩ | ⟨-, rfl⟩ := hn <;> omega

section Entry
variable {a : Assignment} {h : Host W T} {ds : List T} {index : Nat} {tab : TabRef}
  {s s' : Scene W T} {p p' : Progress T} {u : Setup}

omit [Clock T] in
theorem loopSetup_done (hu : loopSetup a index h ds s p = (.done u, s', p')) :
    ∃ b n, a.flow.blocks[index]? = some b ∧ CountsTo a.engagement.config (countOf p.store b) n ∧
      u = ⟨.ofLoop b n, n, BodyRange.after a.flow.blocks index⟩ ∧ s' = s ∧ p' = p := by
  unfold loopSetup at hu
  cases hb : a.flow.blocks[index]? with
  | none =>
    rw [hb] at hu
    cases hu
  | some b =>
    rw [hb] at hu
    obtain ⟨store, s₁, p₁, hstore, hu⟩ := Activity.bind_eq_done.1 hu
    cases hstore
    cases hcount : loopCount a.engagement.config (countOf p.store b) with
    | error f =>
      unfold countOf at hcount
      rw [hcount] at hu
      cases hu
    | ok k =>
      have hk := loopCount_eq_ok hcount
      unfold countOf at hcount
      rw [hcount] at hu
      cases hr : BodyRange.ofRepeater a.flow.blocks index with
      | error f =>
        rw [hr] at hu
        cases hu
      | ok r =>
        rw [hr] at hu
        cases hu
        obtain ⟨rfl, -⟩ := BodyRange.ofRepeater_eq_ok hr
        exact ⟨b, _, rfl, hk, rfl, rfl, rfl⟩

/-- The items were counted by one question to the page that was answered. -/
theorem itemCount_done {e : Engagement} {parent child : String} {n : Nat} {t t' : Unit}
    (hn : itemCount e tab parent child h ds s t = (.done n, s', t')) :
    ∃ r k, Dispatch.query e tab .count
        [(.text "selector", .text parent), (.text "child_selector", .text child)] h ds s () =
          (.done r, s', ()) ∧
      Parameter.int? r.data none = .ok (some k) ∧ 0 < k ∧ n = k.toNat := by
  obtain ⟨r, s₁, t₁, hr, hn⟩ := Activity.bind_eq_done.1 hn
  cases hint : Parameter.int? r.data none with
  | error f =>
    rw [hint] at hn
    cases hn
  | ok given =>
    rw [hint] at hn
    cases given with
    | none => cases hn
    | some k =>
      have hgiven : (if k ≤ 0 then (Activity.fail (.noItems parent child) : Errand W T Nat)
          else pure k.toNat) h ds s₁ t₁ = (.done n, s', t') := hn
      by_cases hk : k ≤ 0
      · rw [if_pos hk] at hgiven
        cases hgiven
      · rw [if_neg hk] at hgiven
        cases hgiven
        exact ⟨r, k, hr, hint, by omega, rfl⟩

end Entry

/-! ## Iteration -/

/-- A pass starts with these variables bound, whatever they held before, and with all others as
they were. -/
structure Rounds.Binds (ρ : Rounds) (vars : Nat → List (String × Value)) : Prop where
  bound : ∀ i store, ∀ e ∈ vars i, (ρ.bind i store).get? e.1 = some e.2
  kept : ∀ i store name, name ∉ (vars i).map (·.1) → (ρ.bind i store).get? name = store.get? name

def loopVars (i : Nat) : List (String × Value) := [(Variables.iterationName, .int i)]

def itemVars (parent child : String) (i : Nat) : List (String × Value) :=
  [(Variables.indexName, .int i),
    (Variables.itemSelectorName, .text (itemSelector parent child i))]

theorem Rounds.ofLoop_binds (b : Block) (n : Nat) : (Rounds.ofLoop b n).Binds loopVars where
  bound i store := List.forall_mem_singleton.2 (store.get?_set_self _ _)
  kept i store name hname := by
    have hne : name ≠ Variables.iterationName := by simpa [loopVars] using hname
    exact store.get?_set_of_ne _ _ _ hne

theorem Rounds.ofItems_binds (b : Block) (parent child : String) (n : Nat) :
    (Rounds.ofItems b parent child n).Binds (itemVars parent child) where
  bound i store := by
    have hne : Variables.indexName ≠ Variables.itemSelectorName := by decide
    refine List.forall_mem_cons.2 ⟨?_, List.forall_mem_singleton.2 (Store.get?_set_self _ _ _)⟩
    exact (Store.get?_set_of_ne _ _ _ _ hne).trans (store.get?_set_self _ _)
  kept i store name hname := by
    simp only [itemVars, List.map_cons, List.map_nil, List.mem_cons, List.not_mem_nil, or_false,
      not_or] at hname
    obtain ⟨hindex, hselector⟩ := hname
    exact (Store.get?_set_of_ne _ _ _ _ hselector).trans (store.get?_set_of_ne _ _ _ hindex)

/-- The passes of a repeater, from one station to another: they are numbered from one to `n`, each
is reported once and starts with its variables bound, and none of them asks how many there are. -/
structure Iterates (a : Assignment) (h : Host W T) (ds : List T) (ρ : Rounds) (body : List Block)
    (vars : Nat → List (String × Value)) (n : Nat) (x y : Station W T) : Prop where
  laps : Threaded (Course.Lap a h ds ρ body) (List.range' 1 n) x y
  uncounted : ∀ count,
    Threaded (Course.Lap a (h.recounting count) ds ρ body) (List.range' 1 n) x y
  reports : y.progress.events.map (·.status) =
    x.progress.events.map (·.status) ++
      (List.range' 1 n).map fun i => ρ.status a i x.progress.reached
  binds : ρ.Binds vars

theorem iterates_of_laps {a : Assignment} {h : Host W T} {ds : List T} {ρ : Rounds}
    {body : List Block} {vars : Nat → List (String × Value)} {n : Nat} {x y : Station W T}
    (hlaps : Threaded (Course.Lap a h ds ρ body) (List.range' 1 n) x y) (hvars : ρ.Binds vars) :
    Iterates a h ds ρ body vars n x y where
  laps := hlaps
  uncounted count := hlaps.imp fun _ _ _ hn => hn.recounting count
  reports := Course.laps_report hlaps
  binds := hvars

/-- A repeater that comes to its end without a stop has as many passes as were found out before the
first of them, and gives back that number, the end of its body and the tab of the last pass. -/
theorem repeater_iterates (a : Assignment) (h : Host W T) (ds : List T) (index : Nat) (tab : TabRef)
    (s s' : Scene W T) (p p' : Progress T) (q : RepeaterResult)
    (hd : 1 ≤ a.engagement.config.defaultLoopCount) (hs' : s'.control.stopped = false) :
    (loop a index tab h ds s p = (.done q, s', p') →
      ∃ b, a.flow.blocks[index]? = some b ∧
        CountsTo a.engagement.config (countOf p.store b) q.passes ∧ 1 ≤ q.passes ∧
        q.lastIndex = (BodyRange.after a.flow.blocks index).lastIndex ∧
        Iterates a h ds (.ofLoop b q.passes)
          ((BodyRange.after a.flow.blocks index).select a.flow.blocks) loopVars q.passes
          ⟨tab, s, p⟩ ⟨q.tab, s', p'⟩) ∧
    (forEach a index tab h ds s p = (.done q, s', p') →
      ∃ b r k s₁, a.flow.blocks[index]? = some b ∧
        let parent := parentOf p.store b
        let child := childOf a.engagement.config p.store b
        Dispatch.query a.engagement tab .count
            [(.text "selector", .text parent), (.text "child_selector", .text child)] h ds s () =
              (.done r, s₁, ()) ∧
        Parameter.int? r.data none = .ok (some k) ∧ q.passes = k.toNat ∧ 1 ≤ q.passes ∧
        q.lastIndex = (BodyRange.after a.flow.blocks index).lastIndex ∧
        Iterates a h ds (.ofItems b parent child q.passes)
          ((BodyRange.after a.flow.blocks index).select a.flow.blocks) (itemVars parent child)
          q.passes ⟨tab, s₁, p⟩ ⟨q.tab, s', p'⟩) := by
  constructor
  · intro hloop
    obtain ⟨ms, hc⟩ := Course.exists_repeater (a := a) (h := h) (loopSetup a index) ds tab s p
    rw [← loop_eq, hloop] at hc
    obtain ⟨u, s₁, p₁, tab', done, hu, rfl, hpasses⟩ := hc.of_done
    obtain ⟨b, n, hb, hcount, rfl, rfl, rfl⟩ := loopSetup_done hu
    obtain ⟨hdone, hlaps⟩ := hpasses.laps hs'
    obtain rfl : done = n := hdone.trans (Nat.zero_add n)
    exact ⟨b, hb, hcount, hcount.pos hd, rfl, iterates_of_laps hlaps (Rounds.ofLoop_binds b _)⟩
  · intro hforEach
    obtain ⟨ms, hc⟩ :=
      Course.exists_repeater (a := a) (h := h) (forEachSetup a index tab) ds tab s p
    rw [← forEach_eq, hforEach] at hc
    obtain ⟨u, s₁, p₁, tab', done, hu, rfl, hpasses⟩ := hc.of_done
    obtain ⟨b, n, hb, hitems, rfl, rfl⟩ := forEachSetup_done hu
    obtain ⟨r, k, hquery, hint, hk, rfl⟩ := itemCount_done hitems
    obtain ⟨hdone, hlaps⟩ := hpasses.laps hs'
    obtain rfl : done = k.toNat := hdone.trans (Nat.zero_add _)
    have hpos : 1 ≤ k.toNat := by omega
    exact ⟨b, r, k, s₁, hb, hquery, hint, rfl, hpos, rfl,
      iterates_of_laps hlaps (Rounds.ofItems_binds b _ _ _)⟩

/-- A loop whose body writes over the number of the pass. -/
def overwriting : Assignment where
  flow := {
    name := "twice"
    blocks := [
      { type := .text "loop", params := [(.text "count", .int 2)] },
      { type := .text "set_variable"
        params := [(.text "variable", .text "_iteration"), (.text "value", .int 9)] }] }
  engagement := {}

def overwritten : Result Unit Rat RepeaterResult :=
  loop overwriting 0 none oneItem [] ⟨(), 0, {}⟩ {}

def keptOnce : Result Unit Rat RepeaterResult :=
  forEach keeping 0 (some (.number 1)) oneItem [] ⟨(), 0, {}⟩ {}

theorem repeater_iterates_twice_once :
    (overwritten.1 = .done ⟨none, 1, 2⟩ ∧ ∃ b body,
      Iterates overwriting oneItem [] (.ofLoop b 2) body loopVars 2 ⟨none, ⟨(), 0, {}⟩, {}⟩
        ⟨none, overwritten.2.1, overwritten.2.2⟩) ∧
    keptOnce.1 = .done ⟨some (.number 1), 1, 1⟩ ∧ ∃ b body parent child s₁,
      Iterates keeping oneItem [] (.ofItems b parent child 1) body (itemVars parent child) 1
        ⟨some (.number 1), s₁, {}⟩ ⟨some (.number 1), keptOnce.2.1, keptOnce.2.2⟩ := by
  have htwice : overwritten.1 = .done ⟨none, 1, 2⟩ := by decide
  have honce : keptOnce.1 = .done ⟨some (.number 1), 1, 1⟩ := by decide
  refine ⟨⟨htwice, ?_⟩, honce, ?_⟩
  · have hgo : overwritten.2.1.control.stopped = false := by decide
    obtain ⟨b, -, -, -, -, hb⟩ := (repeater_iterates overwriting oneItem [] 0 none ⟨(), 0, {}⟩
      overwritten.2.1 {} overwritten.2.2 ⟨none, 1, 2⟩ (by decide) hgo).1 (Prod.ext htwice rfl)
    exact ⟨b, _, hb⟩
  · have hgo : keptOnce.2.1.control.stopped = false := by decide
    obtain ⟨b, r, k, s₁, -, -, -, -, -, -, hb⟩ := (repeater_iterates keeping oneItem [] 0
      (some (.number 1)) ⟨(), 0, {}⟩ keptOnce.2.1 {} keptOnce.2.2 ⟨some (.number 1), 1, 1⟩
      (by decide) hgo).2 (Prod.ext honce rfl)
    exact ⟨b, _, _, _, s₁, hb⟩

end Repeater
end BrowserFlow
