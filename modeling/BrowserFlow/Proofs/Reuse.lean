import BrowserFlow.Proofs.Exclusion
import BrowserFlow.Proofs.Items
import Mathlib.Data.List.Forall2

/-!
Engines that are used again. Whatever happened to an engine, it is idle afterwards, and what is left
is its configuration, the variables and the last report of its latest run. So it takes up the next
flow, and a run looks at the configuration alone: it is the run that a new engine would make, at
every moment, over every host, also one that writes down each call it gets.

* `Engine.past`: an engine after a history of runs, stops and pauses.
* `Engine.SameRun`: runs that nobody can tell apart.
* `Engine.run_afresh`: an engine with a history beside a new one.
-/
namespace BrowserFlow.Engine
set_option autoImplicit false

variable {W T : Type} [Clock T]

def new (g : Engagement) : Engine := { engagement := g }

/-- The engine after one thing after another happened to it, none when one of its runs never ends.
A run that it refuses leaves it as it is. -/
def past (host : Host W T) : List (Entry W T) → Engine → W → T → Option Engine
  | [], e, _, _ => some e
  | .stop :: rest, e, world, now => past host rest e.stop world now
  | .meanwhile change :: rest, e, world, now =>
    past host rest e (change world now).1 (change world now).2
  | .run o :: rest, e, world, now =>
    match e.submit host o.flow o.tab o.sink o.initial world now with
    | .error _ => past host rest e world now
    | .ok r => if r.status.isSome then past host rest r.engine r.world r.now else none

/-- Two runs that nobody can tell apart while they last or once they are over. -/
structure SameRun (r r' : RunReport W T) : Prop where
  status : r.status = r'.status
  events : r.events = r'.events
  store : r.engine.store = r'.engine.store
  world : r.world = r'.world
  now : r.now = r'.now
  refusals : r.refusals = r'.refusals
  /-- A run that ends leaves nothing else behind. -/
  whole : r.status.isSome → r = r'

/-- What is left of an engine that is idle, but for what its latest run left. -/
structure IdleWith (g : Engagement) (e : Engine) : Prop where
  engagement : e.engagement = g
  active : e.active = none

namespace IdleWith

variable {g : Engagement} {e : Engine}

theorem new (g : Engagement) : IdleWith g (new g) := ⟨rfl, rfl⟩

theorem stop (he : IdleWith g e) : IdleWith g e.stop := by
  rwa [stop_of_idle he.active]

variable (host : Host W T) (o : Order) (world : W) (now : T)

theorem run (he : IdleWith g e) :
    IdleWith g (e.run host o.flow o.tab o.sink o.initial world now).engine :=
  ⟨he.engagement, rfl⟩

theorem result (he : IdleWith g e) : e.result host o.flow o.tab o.sink o.initial world now =
    (Engine.new g).result host o.flow o.tab o.sink o.initial world now := by
  unfold Engine.result
  rw [he.engagement]
  rfl

theorem submit (he : IdleWith g e) :
    e.submit host o.flow o.tab o.sink o.initial world now =
      .ok (e.run host o.flow o.tab o.sink o.initial world now) :=
  submit_of_idle he.active ..

/-- A run takes the same course, moment by moment. -/
theorem runsThrough (he : IdleWith g e) (ms : List (Moment W T)) :
    e.RunsThrough host o.flow o.tab o.sink o.initial world now ms ↔
      (Engine.new g).RunsThrough host o.flow o.tab o.sink o.initial world now ms := by
  have hresult := he.result host o world now
  unfold RunsThrough
  rw [hresult, he.engagement]
  rfl

theorem sameRun (he : IdleWith g e) :
    SameRun (e.run host o.flow o.tab o.sink o.initial world now)
      ((Engine.new g).run host o.flow o.tab o.sink o.initial world now) := by
  rw [run_eq, run_eq, he.result host o world now]
  rcases (Engine.new g).result host o.flow o.tab o.sink o.initial world now with ⟨outcome, s, p⟩
  refine ⟨rfl, rfl, rfl, rfl, rfl, rfl, fun hended => ?_⟩
  -- only a run without an end keeps the report of the run before it
  cases outcome with
  | done status =>
    simp only [reportOf, he.engagement]
    rfl
  | failed f => cases hended
  | expired k => cases hended
  | endless => cases hended

end IdleWith

/-- No history leaves anything behind but what its latest run left. -/
theorem past_idle {g : Engagement} {host : Host W T} {entries : List (Entry W T)} {e e' : Engine}
    (he : IdleWith g e) {world : W} {now : T} (hpast : past host entries e world now = some e') :
    IdleWith g e' := by
  induction entries generalizing e world now with
  | nil =>
    cases hpast
    exact he
  | cons entry rest ih =>
    cases entry with
    | stop => exact ih he.stop hpast
    | meanwhile change => exact ih he hpast
    | run o =>
      rw [past, he.submit host o world now] at hpast
      dsimp only at hpast
      split at hpast
      · exact ih (he.run host o world now) hpast
      · cases hpast

/-- A session on one engine is as good as one in which every run has an engine of its own. -/
def serveNew (g : Engagement) (host : Host W T) : List (Entry W T) → W → T → List (RunReport W T)
  | [], _, _ => []
  | .stop :: rest, world, now => serveNew g host rest world now
  | .meanwhile change :: rest, world, now =>
    serveNew g host rest (change world now).1 (change world now).2
  | .run o :: rest, world, now =>
    let r := (new g).run host o.flow o.tab o.sink o.initial world now
    r :: if r.status.isSome then serveNew g host rest r.world r.now else []

theorem serve_sameRuns {g : Engagement} {host : Host W T} (entries : List (Entry W T)) {e : Engine}
    (he : IdleWith g e) (world : W) (now : T) :
    List.Forall₂ SameRun (serve host entries e world now) (serveNew g host entries world now) := by
  induction entries generalizing e world now with
  | nil => exact .nil
  | cons entry rest ih =>
    cases entry with
    | stop => exact ih he.stop world now
    | meanwhile change => exact ih he _ _
    | run o =>
      have hsame := he.sameRun host o world now
      refine .cons hsame ?_
      rw [hsame.status, ← hsame.world, ← hsame.now]
      split
      · exact ih (he.run host o world now) _ _
      · exact .nil

/-- An engine with a history is idle. It takes up the next flow as a new engine does, from every
tab, variables and world, and the two runs are the same; and so it goes for all that follows. -/
theorem run_afresh {g : Engagement} {host : Host W T} {entries : List (Entry W T)} {e : Engine}
    {before : W} {start : T} (hpast : past host entries (new g) before start = some e) (o : Order)
    (world : W) (now : T) :
    e.active = none ∧
    (∀ ms, e.RunsThrough host o.flow o.tab o.sink o.initial world now ms ↔
      (new g).RunsThrough host o.flow o.tab o.sink o.initial world now ms) ∧
    (∃ r r', e.submit host o.flow o.tab o.sink o.initial world now = .ok r ∧
      (new g).submit host o.flow o.tab o.sink o.initial world now = .ok r' ∧ SameRun r r') ∧
    ∀ rest, ∃ rs, answers host rest e world now = rs.map .ok ∧
      List.Forall₂ SameRun rs (serveNew g host rest world now) := by
  have hidle := past_idle (.new g) hpast
  refine ⟨hidle.active, hidle.runsThrough host o world now, ?_, fun rest => ?_⟩
  · exact ⟨_, _, hidle.submit host o world now, (IdleWith.new g).submit host o world now,
      hidle.sameRun host o world now⟩
  · exact ⟨_, answers_of_idle rest hidle.active world now, serve_sameRuns rest hidle world now⟩

/-- A run that fails at its second block, and a stop after it. -/
def troubled : List (Entry Unit Rat) :=
  [.run { flow := {
      name := "broken"
      blocks := [
        { type := .text "set_variable"
          params := [(.text "variable", .text "left"), (.text "value", .int 1)] },
        { type := .text "teleport" }] } },
    .stop]

theorem run_afresh_troubled :
    ∃ e : Engine, past Repeater.oneItem troubled (new {}) () 0 = some e ∧
      e.lastStatus.isSome = true ∧ e.store.get? "left" = some (.int 1) ∧
      ∃ r r', e.submit Repeater.oneItem (Repeater.keepItems "ul") none none [] () 5 = .ok r ∧
        (new {}).submit Repeater.oneItem (Repeater.keepItems "ul") none none [] () 5 = .ok r' ∧
        SameRun r r' := by
  have hpast : (past Repeater.oneItem troubled (new {}) () 0).isSome = true := by decide
  obtain ⟨e, he⟩ := Option.isSome_iff_exists.1 hpast
  have hkept : (past Repeater.oneItem troubled (new {}) () 0).map
      (fun e => (e.lastStatus.isSome, e.store.get? "left")) = some (true, some (.int 1)) :=
        by decide
  rw [he] at hkept
  obtain ⟨hstatus, hleft⟩ := Prod.mk.inj (Option.some.inj hkept)
  obtain ⟨-, -, hsame, -⟩ := run_afresh he { flow := Repeater.keepItems "ul" } () 5
  exact ⟨e, he, hstatus, hleft, hsame⟩

end BrowserFlow.Engine
