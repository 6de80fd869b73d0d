import BrowserFlow.Proofs.Iteration
import BrowserFlow.Proofs.SimulatedTabs

/-!
The current tab is never a closed one. A run hands a tab from block to block; over a host that
closes tabs on request only, the tab at hand is open at every moment of every run, although
blocks, in repeaters too, close tabs, their own among them.

* `Deed.Hands`: what a moment of a run hands on of the tab it was handed.
* `Course.Blocks.hands` to `Course.Flow.hands`: the tab at hand is open, one lemma for each level.
* `Engine.run_handsOpenTabs`: so it is along every run, and blocks that close tabs close no others.
-/
namespace BrowserFlow
set_option autoImplicit false

/-- From a tab that was handed on to the next one. -/
inductive Deed.Hands : TabRef → Deed → TabRef → Prop
  | start {σ b tab} : Hands tab (.start σ b tab) tab
  | finish {σ b tab tab'} : Hands tab (.finish σ b (.done tab')) tab'
  /-- A block that comes to no result has no tab to hand on. -/
  | broke {σ b tab} (e : Halt) : Hands tab (.finish σ b e.outcome) none
  | reach {index tab} : Hands tab (.reach index) tab
  | leaveOut {σ b tab} : Hands tab (.leaveOut σ b) tab
  | report {topic status tab} : Hands tab (.report topic status) tab
  | enter {n tab} : Hands tab (.enter n) tab
  | leave {n tab} : Hands tab (.leave n) tab

variable {W T α : Type}

/-- What is handed on at a moment is no tab, or one that is open then. -/
def TabView.Hands (v : TabView W) (m : Moment W T) (tab tab' : TabRef) : Prop :=
  m.deed.Hands tab tab' ∧ v.Stands m.scene.world tab'

/-- A report closes no tab, whatever its receiver asks for. -/
theorem TabView.Stands.heard {v : TabView W} {s : Scene W T} {tab : TabRef}
    (htab : v.Stands s.world tab) (a : Assignment) (status : RunStatus) :
    v.Stands (Run.heard a status s).world tab := by
  rw [Run.heard_world]
  exact htab

variable [Clock T] {v : TabView W} {h : Host W T} (hv : h.KeepsTo v) {a : Assignment}
  {ds : List T} {tab : TabRef} {s : Scene W T} {p : Progress T} {ms : List (Moment W T)}

namespace Course

/-- A part of a run hands its tab on from moment to moment, and what it gives in the end as well. -/
structure Conveys (v : TabView W) (tabOf : α → TabRef) (tab : TabRef) (ms : List (Moment W T))
    (r : Result W T α) : Prop where
  threaded : ∃ last, Threaded v.Hands ms tab last
  sound : v.sound r.2.1.world
  gives : ∀ a, r.1 = .done a → v.Stands r.2.1.world (tabOf a)

include hv

/-! ## Passes -/

theorem Blocks.hands {n : Nat} {f : Block → Block} {bs : List Block} {r : Result W T TabRef}
    (hc : Blocks a h n f ds bs tab s p ms r) (htab : v.Stands s.world tab) :
    ∃ last, Threaded v.Hands ms tab last ∧ v.Stands r.2.1.world last ∧
      ∀ tab', r.1 = .done tab' → tab' = last := by
  induction hc with
  | @nil tab s p =>
    refine ⟨tab, .nil tab, htab, ?_⟩
    rintro _ ⟨⟩
    rfl
  | @stopped b rest tab s p hs =>
    refine ⟨tab, .nil tab, htab, ?_⟩
    rintro _ ⟨⟩
    rfl
  | disabled hs hb hc ih => exact ih htab
  | leftOut hs hb hk hc ih =>
    obtain ⟨last, hms, hlast⟩ := ih htab
    exact ⟨last, .cons ⟨.leaveOut, htab⟩ hms, hlast⟩
  | @broke b rest tab s p s' p' e hs hb hk hr =>
    -- the block may have closed its tab before it broke off, so none is handed on
    have hsound := Run.block_sound hv a (f b) tab ds htab.1 p
    rw [hr] at hsound
    have hnone : v.Stands s'.world none := TabView.stands_none hsound
    refine ⟨none, .cons ⟨.start, htab⟩ (.cons ⟨.broke e, hnone⟩ (.nil none)), hnone, ?_⟩
    intro tab' he
    exact absurd he (e.outcome_ne_done tab')
  | ran hs hb hk hr hc ih =>
    have htab' := Run.block_stands hv a _ _ htab hr
    obtain ⟨last, hms, hlast⟩ := ih htab'
    exact ⟨last, .cons ⟨.start, htab⟩ (.cons ⟨.finish, htab'⟩ hms), hlast⟩

theorem Pass.hands {ρ : Repeater.Rounds} {body : List Block} {n : Nat} {r : Result W T TabRef}
    (hc : Pass a h ρ body ds n tab s p ms r) (htab : v.Stands s.world tab) :
    ∃ last, Threaded v.Hands (ρ.head a n s p ++ ms) tab last ∧ v.Stands r.2.1.world last ∧
      ∀ tab', r.1 = .done tab' → tab' = last := by
  have hheard := htab.heard a (ρ.status a n p.reached)
  obtain ⟨last, hms, hlast⟩ := Blocks.hands hv hc hheard
  exact ⟨last, .cons ⟨.report, htab⟩ (.cons ⟨.enter, hheard⟩ hms), hlast⟩

theorem Passes.hands {ρ : Repeater.Rounds} {body : List Block} {done left : Nat}
    {r : Result W T (TabRef × Nat)} (hc : Passes a h ρ body ds done left tab s p ms r)
    (htab : v.Stands s.world tab) : Conveys v Prod.fst tab ms r := by
  induction hc with
  | @ended done tab s p =>
    refine ⟨⟨tab, .nil tab⟩, htab.1, ?_⟩
    rintro _ ⟨⟩
    exact htab
  | @stopped done left tab s p hs =>
    refine ⟨⟨tab, .nil tab⟩, htab.1, ?_⟩
    rintro _ ⟨⟩
    exact htab
  | @broke done left tab s p ms s' p' e hs hp =>
    obtain ⟨last, hms, hlast, -⟩ := hp.hands hv htab
    refine ⟨⟨last, hms.append (.cons ⟨.leave, hlast⟩ (.nil last))⟩, hlast.1, ?_⟩
    intro q he
    exact absurd he (e.outcome_ne_done q)
  | @cutShort done left tab s p ms tab' s' p' hs hp hs' =>
    obtain ⟨last, hms, hlast, htab'⟩ := hp.hands hv htab
    refine ⟨⟨last, hms.append (.cons ⟨.leave, hlast⟩ (.nil last))⟩, hlast.1, ?_⟩
    rintro _ ⟨⟩
    rw [htab' tab' rfl]
    exact hlast
  | @next done left tab s p ms tab' s' p' ms' r hs hp hs' hc ih =>
    obtain ⟨last, hms, hlast, htab'⟩ := hp.hands hv htab
    -- the next pass starts in the tab that the last block of this one left
    obtain rfl := htab' tab' rfl
    obtain ⟨⟨last', hms'⟩, hsound, hgives⟩ := ih hlast
    exact ⟨⟨last', hms.append (.cons ⟨.leave, hlast⟩ hms')⟩, hsound, hgives⟩

/-! ## Top-level blocks -/

theorem Repeater.hands {b : Block} {index : Nat} {prep : Run W T Repeater.Setup}
    (hprep : Repeater.setup? a b index tab = some prep) {r : Result W T RepeaterResult}
    (hc : Repeater a h prep ds tab s p ms r) (htab : v.Stands s.world tab) :
    Conveys v RepeaterResult.tab tab ms r := by
  have hmoves := (hv.composed False a.engagement.config.elementPollMs).setup hprep
  have hkeep := (hmoves ds s p htab.1).2 not_false
  cases hc with
  | @unready s' p' e hu =>
    rw [hu] at hkeep
    refine ⟨⟨tab, .nil tab⟩, hkeep.1, ?_⟩
    intro q he
    exact absurd he (e.outcome_ne_done q)
  | @ready u s' p' ms r hu hc =>
    rw [hu] at hkeep
    obtain ⟨hms, hsound, hgives⟩ := hc.hands hv (hkeep.stands htab List.not_mem_nil)
    refine ⟨hms, hsound, ?_⟩
    intro q hq
    obtain ⟨q', hq', rfl⟩ := Outcome.map_eq_done.1 hq
    exact hgives q' hq'

theorem Unit.hands {index : Nat} {b : Block} {r : Result W T (Nat × TabRef)}
    (hc : Unit a h ds index b tab s p ms r) (htab : v.Stands s.world tab) :
    Conveys v Prod.snd tab ms r := by
  have hyield : v.Stands (Activity.yielded h s).world tab :=
    (hv.arrivals s.now htab.1).stands htab List.not_mem_nil
  cases hc with
  | late hb => exact ⟨⟨tab, .nil tab⟩, hyield.1, nofun⟩
  | @single inner r hk hb hr =>
    -- its end is a moment of the level above
    subst hr
    refine ⟨⟨tab, .nil tab⟩, Run.block_sound hv a b tab inner hyield.1 p, ?_⟩
    intro q hq
    obtain ⟨tab', hdone, rfl⟩ := Outcome.map_eq_done.1 hq
    have hblock := Activity.capped_eq_done.1 hdone
    exact Run.block_stands hv a b tab hyield (Prod.ext hblock rfl)
  | @repeated prep inner ms r hprep hb hc =>
    obtain ⟨hms, hsound, hgives⟩ := hc.hands hv hprep hyield
    refine ⟨hms, hsound, ?_⟩
    intro q hq
    obtain ⟨q', hdone, rfl⟩ := Outcome.map_eq_done.1 hq
    exact hgives q' (Activity.capped_eq_done.1 hdone)

theorem Started.hands {index : Nat} {b : Block} {r : Result W T (Nat × TabRef)}
    (hc : Started a h ds index b tab s p ms r) (htab : v.Stands s.world tab) :
    Conveys v Prod.snd tab (Run.unitHead a index b tab s p ++ ms) r := by
  have hheard := htab.heard a (Run.unitStatus a b (p.reached + 1))
  obtain ⟨⟨last, hms⟩, hsound, hgives⟩ := Unit.hands hv hc hheard
  refine ⟨⟨last, ?_⟩, hsound, hgives⟩
  exact .cons ⟨.reach, htab⟩ (.cons ⟨.report, htab⟩ (.cons ⟨.start, hheard⟩ hms))

/-! ## Whole runs -/

theorem Scan.hands {index : Nat} {r : Result W T TabRef} (hc : Scan a h ds index tab s p ms r)
    (htab : v.Stands s.world tab) :
    ∃ last, Threaded v.Hands ms tab last ∧ v.Stands r.2.1.world last := by
  induction hc with
  | @ended index tab s p hi => exact ⟨tab, .nil tab, htab⟩
  | @stopped index b tab s p hb hs => exact ⟨tab, .nil tab, htab⟩
  | disabled hb hs he hc ih => exact ih htab
  | leftOut hb hs he hk hc ih =>
    obtain ⟨last, hms, hlast⟩ := ih htab
    exact ⟨last, .cons ⟨.reach, htab⟩ (.cons ⟨.leaveOut, htab⟩ hms), hlast⟩
  | @broke index b tab s p ms s' p' e hb hs he hk hu =>
    obtain ⟨⟨last, hms⟩, hsound, -⟩ := hu.hands hv htab
    have hnone : v.Stands s'.world none := TabView.stands_none hsound
    exact ⟨none, hms.append (.cons ⟨.broke e, hnone⟩ (.nil none)), hnone⟩
  | @ran index b tab s p ms next tab' s' p' ms' r hb hs he hk hu hc ih =>
    obtain ⟨⟨last, hms⟩, -, hgives⟩ := hu.hands hv htab
    have htab' : v.Stands s'.world tab' := hgives (next, tab') rfl
    obtain ⟨last', hms', hlast'⟩ := ih htab'
    exact ⟨last', hms.append (.cons ⟨.finish, htab'⟩ hms'), hlast'⟩

theorem Flow.hands {r : Result W T RunStatus} (hc : Flow a h ds tab s p ms r)
    (htab : v.Stands s.world tab) : ∃ last, Threaded v.Hands ms tab last := by
  have opened {ms : List (Moment W T)} {r : Result W T TabRef}
      (hc : Opened a h ds tab s p ms r) :
      ∃ last, Threaded v.Hands
        (⟨.report .opening (Run.openingStatus a p.reached), s, p⟩ :: ms) tab last ∧
        v.Stands r.2.1.world last := by
    obtain ⟨last, hms, hlast⟩ := Scan.hands hv hc (htab.heard a (Run.openingStatus a p.reached))
    exact ⟨last, .cons ⟨.report, htab⟩ hms, hlast⟩
  cases hc with
  | completed hc =>
    obtain ⟨last, hms, hlast⟩ := opened hc
    exact ⟨last, hms.append (.cons ⟨.report, hlast⟩ (.nil last))⟩
  | failed hc =>
    obtain ⟨last, hms, hlast⟩ := opened hc
    exact ⟨last, hms.append (.cons ⟨.report, hlast⟩ (.nil last))⟩
  | lost he hc =>
    obtain ⟨last, hms, -⟩ := opened hc
    exact ⟨last, hms⟩

end Course

namespace Engine

/-- Over a host that closes tabs on request only, a run that starts without a tab or in an open one
has no closed tab at hand at any moment. A block that closes the other tabs closes those of the
window of its own tab, and no others; a block that closes its own tab closes no other. -/
theorem run_handsOpenTabs {v : TabView W} {host : Host W T} (hv : host.KeepsTo v) (e : Engine)
    (flow : Flow) {tab : TabRef} (sink : Option Sink) (initial : List (String × Value)) {world : W}
    (now : T) (htab : v.Stands world tab) :
    (∃ ms, e.RunsThrough host flow tab sink initial world now ms) ∧
    (∀ ms, e.RunsThrough host flow tab sink initial world now ms →
      ∃ last, Threaded v.Hands ms tab last) ∧
    ∀ (a : Assignment) (b : Block) (tab tab' : TabRef) (ds : List T) (s s' : Scene W T)
      (p p' : Progress T), b.kind? = some .closeTab → v.sound s.world →
      Run.block a b tab host ds s p = (.done tab', s', p') →
      Step.Closing v host ds (Template.interpolateAll p.store b.params) tab s s' tab' := by
  refine ⟨e.exists_runsThrough .., fun ms hms => ?_, ?_⟩
  · exact Course.Flow.hands hv hms htab
  · intro a b tab tab' ds s s' p p' hb hs hx
    exact Run.block_closes hv hb hs hx

/-- Two tabs in one window and a third one in another. -/
def twoWindows : SimBrowser where
  tabs := [
    { id := .number 1, window := some (.number 1), active := true },
    { id := .number 2, window := some (.number 1), index := 1 },
    { id := .number 3, window := some (.number 2), active := true }]

def closeOthers : Block where
  type := .text "close_tab"
  params := [(.text "target", .text "others")]

/-- Closes the other tabs and then the tab at hand, twice. -/
def tidyUp : Flow where
  name := "tidy up"
  blocks := [
    { type := .text "loop", params := [(.text "count", .int 2)] },
    closeOthers,
    { type := .text "close_tab" }]

theorem run_handsOpenTabs_twoWindows :
    SimBrowser.view.Stands twoWindows (some (.number 1)) ∧
    (∃ ms last, ({ engagement := {} } : Engine).RunsThrough SimBrowser.host tidyUp
        (some (.number 1)) none [] twoWindows 0 ms ∧
      Threaded SimBrowser.view.Hands ms (some (.number 1)) last) ∧
    ∃ s' : Scene SimBrowser Float, s'.world.tabs.map (·.id) = [.number 1, .number 3] ∧
      Step.Closing SimBrowser.view SimBrowser.host [] closeOthers.params (some (.number 1))
        ⟨twoWindows, 0, {}⟩ s' (some (.number 1)) := by
  have hstands : SimBrowser.view.Stands twoWindows (some (.number 1)) := by
    refine TabView.stands_some ⟨by decide, ?_, by decide, rfl⟩ ⟨_, List.mem_cons_self, rfl⟩
    simp [twoWindows]
  obtain ⟨⟨ms, hms⟩, hhands, hcloses⟩ := run_handsOpenTabs SimBrowser.host_keepsTo
    { engagement := {} } tidyUp none [] 0 hstands
  obtain ⟨last, hlast⟩ := hhands ms hms
  refine ⟨hstands, ⟨ms, last, hms, hlast⟩, _, ?_,
    hcloses ⟨tidyUp, {}, none⟩ closeOthers (some (.number 1)) _ [] ⟨twoWindows, 0, {}⟩ _ {} _ rfl
      hstands.1 rfl⟩
  rfl

end Engine

end BrowserFlow
