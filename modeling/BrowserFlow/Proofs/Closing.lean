import BrowserFlow.Proofs.ServedTabs

/-!
Closing the tab at hand. Just that tab goes. What is handed on is the first tab in front that the
host lists, and all windows are listed: it is in front of the window of the closed tab only when no
other window comes first.

* `TabView.FrontOf`: the tab in front of a window, if one is.
* `Step.closeTab_handsOn`: what a step that closes its tab does and hands on.
* `Step.not_closeTab_staysInWindow`: the tab that is handed on may be one of another window.
-/
namespace BrowserFlow
set_option autoImplicit false

open Activity

variable {W T : Type}

namespace TabView
variable {v : TabView W} {w w' : W} {x : Handle}

/-- A tab in front of this window, or none when none of its tabs is in front. -/
def FrontOf (v : TabView W) (w : W) (window : Option Handle) : TabRef → Prop
  | some x => ∃ t ∈ v.tabs w, t.id = x ∧ t.window = window ∧ t.active = true
  | none => ∀ t ∈ v.tabs w, t.window = window → t.active = false

theorem Without.distinct (hw : v.Without x w w') (hd : ((v.tabs w).map (·.id)).Nodup) :
    ((v.tabs w').map (·.id)).Nodup := by
  have hids := hw.2.map Prod.fst
  rw [List.map_map, List.map_map] at hids
  exact hids.nodup_iff.2 (hd.sublist (List.filter_sublist.map _))

theorem Without.unchanged {w'' : W} (hw : v.Without x w w') (hsame : v.Unchanged w' w'') :
    v.Without x w w'' := by
  refine ⟨hsame.1, ?_⟩
  rw [hsame.2]
  exact hw.2

/-- The first tab in front is the one in front of a window when it is in that window. -/
theorem frontOf_first (hd : ((v.tabs w).map (·.id)).Nodup) (window : Option Handle) :
    v.FrontOf w window (((v.tabs w).find? (·.active)).map (·.id)) ↔
      ∀ t, (v.tabs w).find? (·.active) = some t → t.window = window := by
  cases hfirst : (v.tabs w).find? (·.active) with
  | none =>
    have hnone := List.find?_eq_none.1 hfirst
    refine iff_of_true (fun t ht _ => ?_) nofun
    exact Bool.eq_false_iff.2 (hnone t ht)
  | some t =>
    have ht := List.mem_of_find?_eq_some hfirst
    constructor
    · rintro ⟨u, hu, hid, hwindow, -⟩ _ ⟨⟩
      rwa [← List.inj_on_of_nodup_map hd hu ht hid]
    · intro hwindow
      exact ⟨t, ht, rfl, hwindow t rfl, List.find?_some hfirst⟩

end TabView

namespace Step

/-- A question about tabs, or one to close this one alone. -/
def Closes (x : Handle) : (α : Type) → Host.Question α → Prop
  | _, .query _ _ => True
  | _, .remove xs => xs = [some x]
  | _, _ => False

section Closing
variable [Clock T] {h : Host W T} {v : TabView W} (hv : h.Serves v) {w : W}
include hv

theorem remove_tab (hs : v.sound w) {t : Tab} (ht : t ∈ v.tabs w) :
    Completes h (· = w) (Closes t.id) (Activity.call fun h : Host W T => h.remove [some t.id])
      fun w' _ => v.Without t.id w w' := by
  refine Completes.call (q := .remove [some t.id]) rfl ?_
  rintro now _ rfl
  exact hv.remove now hs t ht

theorem list_front (x : Handle) :
    Completes h (v.Without x w) (Closes x)
      (Activity.call fun h : Host W T => h.query none (some true))
      fun w' ts => v.Without x w w' ∧ ts = (v.tabs w').filter (·.active) := by
  refine Completes.call (q := .query none (some true)) trivial fun now w₁ hw₁ => ?_
  refine (hv.query now hw₁.1 none (some true)).imp fun w' ts hts => ?_
  obtain ⟨hsame, hts⟩ := hts
  refine ⟨hw₁.unchanged hsame, ?_⟩
  rw [hts, hsame.2]
  simp

/-- The tab at hand closes, and no other one. The first tab in front of any window is handed on, so
it is in front of the window of the closed tab exactly when it is a tab of that window. -/
theorem closeTab_handsOn (hs : v.sound w) (hd : ((v.tabs w).map (·.id)).Nodup) {t : Tab}
    (ht : t ∈ v.tabs w) {params : Mapping}
    (hcurrent : Parameter.choice (Mapping.named params "target") "current" ≠ "others") :
    Completes h (· = w) (Closes t.id) (closeTab params (some t.id)) fun w' r =>
      v.Without t.id w w' ∧
      r = ⟨((v.tabs w').find? (·.active)).map (·.id), none⟩ ∧
      (v.FrontOf w' t.window r.tab ↔
        ∀ u, (v.tabs w').find? (·.active) = some u → u.window = t.window) := by
  unfold closeTab
  rw [if_neg hcurrent]
  refine (remove_tab hv hs ht).bind fun _ => (list_front hv t.id).bind fun left => ?_
  refine .pure fun w' hw' => ?_
  obtain ⟨hw', rfl⟩ := hw'
  rw [List.head?_filter]
  exact ⟨hw', rfl, TabView.frontOf_first (hw'.distinct hd) t.window⟩

end Closing

/-- A window of one tab, and another one with a tab in front and one behind it. -/
def besideWindow : SimBrowser where
  tabs := [
    { id := .number 1, window := some (.number 1), active := true },
    { id := .number 2, window := some (.number 2), active := true },
    { id := .number 3, window := some (.number 2), index := 1 }]

theorem closeTab_handsOn_besideWindow :
    SimBrowser.untroubled.sound besideWindow ∧ (besideWindow.tabs.map (·.id)).Nodup ∧
      ({ id := .number 3, window := some (.number 2), index := 1 } : Tab) ∈ besideWindow.tabs ∧
      Parameter.choice (Mapping.named [] "target") "current" ≠ "others" ∧
      Completes SimBrowser.host (· = besideWindow) (Closes (.number 3))
        (closeTab [] (some (.number 3))) fun b r =>
          SimBrowser.untroubled.Without (.number 3) besideWindow b ∧
          r = ⟨(b.tabs.find? (·.active)).map (·.id), none⟩ ∧
          (SimBrowser.untroubled.FrontOf b (some (.number 2)) r.tab ↔
            ∀ u, b.tabs.find? (·.active) = some u → u.window = some (.number 2)) := by
  have hs : SimBrowser.untroubled.sound besideWindow := ⟨rfl, rfl⟩
  have hd : (besideWindow.tabs.map (·.id)).Nodup := by decide
  have ht : ({ id := .number 3, window := some (.number 2), index := 1 } : Tab) ∈
      besideWindow.tabs := by decide
  have hcurrent : Parameter.choice (Mapping.named [] "target") "current" ≠ "others" := by decide
  exact ⟨hs, hd, ht, hcurrent, closeTab_handsOn SimBrowser.host_serves hs hd ht hcurrent⟩

/-- Beside another window that is listed first, the run goes on in that window, although a tab is in
front of its own. -/
theorem not_closeTab_staysInWindow :
    ¬ ∀ (b : SimBrowser) (t : Tab) (params : Mapping) (s s' : Scene SimBrowser Float)
      (r : StepResult), SimBrowser.untroubled.sound b → (b.tabs.map (·.id)).Nodup →
      (∀ u ∈ b.tabs, u.window.isSome) → t ∈ b.tabs →
      Parameter.choice (Mapping.named params "target") "current" = "current" → s.world = b →
      (closeTab params (some t.id) : Errand SimBrowser Float StepResult) SimBrowser.host [] s () =
        (.done r, s', ()) →
      SimBrowser.untroubled.Without t.id b s'.world ∧
        SimBrowser.untroubled.FrontOf s'.world t.window r.tab := by
  intro hall
  obtain ⟨-, u, hu, hid, hwindow, -⟩ := hall besideWindow
    { id := .number 3, window := some (.number 2), index := 1 } [] ⟨besideWindow, 0, {}⟩ _
    ⟨some (.number 1), none⟩ ⟨rfl, rfl⟩ (by decide) (by decide) (by decide) (by decide) rfl rfl
  have hleft : u ∈ [
      ({ id := .number 1, window := some (.number 1), active := true } : Tab),
      { id := .number 2, window := some (.number 2), active := true }] := hu
  obtain rfl | hu := List.mem_cons.1 hleft
  · cases hwindow
  · obtain rfl := List.mem_singleton.1 hu
    cases hid

end Step

end BrowserFlow
