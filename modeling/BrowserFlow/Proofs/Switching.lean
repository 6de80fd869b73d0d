import BrowserFlow.Proofs.ServedTabs
import Mathlib.GroupTheory.Perm.List

/-!
Going round the tabs of a window. The tabs of a window stand in a ring, in the order of their
positions, and steps that switch to the next or the previous tab walk along it: one turn of the ring
comes to every tab of the window once, and no other window is touched.

* `Step.tour`: steps that switch tabs, one after another.
* `Step.neighbour?_turns`: the neighbour of a tab, as a permutation.
* `Step.switchTab_turns`, `Step.tour_route`: what one step does, and what many do.
* `Step.switchTab_cycles`: the permutation is a cycle through the window.
-/
namespace BrowserFlow
set_option autoImplicit false

open Activity

/-! ## Rings -/

namespace Step

/-- The handles of tabs in the order of their positions. -/
def ring (tabs : List Tab) : List Handle := (byIndex tabs).map (·.id)

theorem ring_perm (tabs : List Tab) : (ring tabs).Perm (tabs.map (·.id)) :=
  (List.mergeSort_perm tabs _).map _

/-- The order does not depend on which tabs are in front. -/
theorem ring_eq_of_rest {tabs tabs' : List Tab} (h : tabs'.map Tab.rest = tabs.map Tab.rest) :
    ring tabs' = ring tabs := by
  have hrest (ts : List Tab) : (byIndex ts).map Tab.rest = byIndex (ts.map Tab.rest) :=
    List.map_mergeSort fun _ _ _ _ => rfl
  refine TabView.ids_eq_of_rest ?_
  rw [hrest, hrest, h]

theorem placeOf_getElem {order : List Tab} (hdistinct : (order.map (·.id)).Nodup) {i : Nat}
    (hi : i < order.length) : placeOf order[i].id order = i := by
  have hfound : order.findIdx? (·.id == order[i].id) = some i := by
    rw [List.findIdx?_eq_some_iff_getElem]
    refine ⟨hi, beq_self_eq_true _, fun j hj hsame => ?_⟩
    have hdiffer := List.pairwise_iff_getElem.1 (List.pairwise_map.1 hdistinct)
    exact hdiffer j i (hj.trans hi) hi hj (eq_of_beq hsame)
  unfold placeOf
  rw [hfound]
  rfl

def backwards (params : Mapping) : Bool :=
  Parameter.choice (Mapping.named params "direction") "next" == "previous"

/-- One step along a permutation of tabs, or one step back. -/
def turn (σ : Equiv.Perm Handle) (back : Bool) (x : Handle) : Handle :=
  if back then σ⁻¹ x else σ x

theorem turn_mem {xs : List Handle} {x : Handle} (hx : x ∈ xs) (back : Bool) :
    turn xs.formPerm back x ∈ xs := by
  cases back with
  | false => exact List.formPerm_mem_iff_mem.2 hx
  | true =>
    have hreturn : xs.formPerm (turn xs.formPerm true x) = x := xs.formPerm.apply_symm_apply x
    refine List.formPerm_mem_iff_mem.1 ?_
    rwa [hreturn]

theorem neighbour?_turns {order : List Tab} (hdistinct : (order.map (·.id)).Nodup) {x : Handle}
    (hx : x ∈ order.map (·.id)) (back : Bool) :
    ∃ target ∈ order, neighbour? order (placeOf x order) back = some target ∧
      target.id = turn (order.map (·.id)).formPerm back x := by
  obtain ⟨t, ht, rfl⟩ := List.mem_map.1 hx
  obtain ⟨i, hi, rfl⟩ := List.mem_iff_getElem.1 ht
  rw [placeOf_getElem hdistinct hi]
  have hturn (j : Nat) (hj : j < order.length) (hlt : (j + 1) % order.length < order.length) :
      (order.map (·.id)).formPerm order[j].id = order[(j + 1) % order.length].id := by
    have hstep := List.formPerm_apply_getElem _ hdistinct j (by simpa)
    simpa using hstep
  unfold neighbour? turn
  cases back with
  | false =>
    have hlt : (i + 1) % order.length < order.length := Nat.mod_lt _ (by omega)
    simp only [Bool.false_eq_true, if_false]
    exact ⟨_, List.getElem_mem hlt, List.getElem?_eq_getElem hlt, (hturn i hi hlt).symm⟩
  | true =>
    have hlt : (i + order.length - 1) % order.length < order.length := Nat.mod_lt _ (by omega)
    -- one step forward from the tab before leads here
    have hback : ((i + order.length - 1) % order.length + 1) % order.length = i := by
      rw [Nat.mod_add_mod, Nat.sub_add_cancel (by omega), Nat.add_mod_right, Nat.mod_eq_of_lt hi]
    simp only [if_true]
    refine ⟨_, List.getElem_mem hlt, List.getElem?_eq_getElem hlt, ?_⟩
    rw [Equiv.Perm.eq_inv_iff_eq, hturn _ hlt (hback.trans_lt hi)]
    simp only [hback]

end Step

/-! ## Windows -/

variable {W T : Type}

namespace TabView
variable {v : TabView W} {w w' : W} {window : Option Handle} {x : Handle}

def handles (v : TabView W) (w : W) (window : Option Handle) : List Handle :=
  (v.inWindow w window).map (·.id)

/-- From each tab of a window to the next one. -/
def cycle (v : TabView W) (w : W) (window : Option Handle) : Equiv.Perm Handle :=
  (Step.ring (v.inWindow w window)).formPerm

theorem mem_handles : x ∈ v.handles w window ↔ ∃ t ∈ v.tabs w, t.window = window ∧ t.id = x := by
  simp [handles, inWindow, and_assoc]

theorem SameButFront.handles (hw : v.SameButFront w w') (window : Option Handle) :
    v.handles w' window = v.handles w window :=
  ids_eq_of_rest (hw.inWindow window)

theorem SameButFront.distinct (hw : v.SameButFront w w') (hd : ((v.tabs w).map (·.id)).Nodup) :
    ((v.tabs w').map (·.id)).Nodup := by
  rwa [ids_eq_of_rest hw.2]

theorem handles_nodup (hd : ((v.tabs w).map (·.id)).Nodup) (window : Option Handle) :
    (v.handles w window).Nodup :=
  hd.sublist (List.filter_sublist.map _)

theorem mem_ring : x ∈ Step.ring (v.inWindow w window) ↔ x ∈ v.handles w window :=
  (Step.ring_perm _).mem_iff

theorem turn_cycle_mem (hx : x ∈ v.handles w window) (back : Bool) :
    Step.turn (v.cycle w window) back x ∈ v.handles w window :=
  mem_ring.1 (Step.turn_mem (mem_ring.2 hx) back)

theorem ring_nodup (hd : ((v.tabs w).map (·.id)).Nodup) (window : Option Handle) :
    (Step.ring (v.inWindow w window)).Nodup :=
  (Step.ring_perm _).nodup_iff.2 (handles_nodup hd window)

end TabView

/-! ## Steps -/

namespace Step

/-- A question about tabs, or one that brings one of these tabs to the front. -/
def Fronts (xs : List Handle) : (α : Type) → Host.Question α → Prop
  | _, .get _ => True
  | _, .query _ _ => True
  | _, .update tab change => change = { active := some true } ∧ ∃ x ∈ xs, tab = some x
  | _, _ => False

section Switching
variable [Clock T] {h : Host W T} {v : TabView W} (hv : h.Serves v) {w : W}
  {window : Option Handle} {x : Handle}
include hv

theorem get_window (hd : ((v.tabs w).map (·.id)).Nodup) (hx : x ∈ v.handles w window) :
    Completes h (v.SameButFront w) (Fronts (v.handles w window))
      (Activity.call fun h : Host W T => h.get (some x))
      fun w' t => v.SameButFront w w' ∧ t.window = window := by
  refine Completes.call (q := .get (some x)) trivial fun now w₁ hw₁ => ?_
  rw [← hw₁.handles window] at hx
  obtain ⟨t, ht, rfl, rfl⟩ := TabView.mem_handles.1 hx
  refine (hv.get now hw₁.1 t ht).imp fun w' u hu => ?_
  obtain ⟨hsame, hu, hid⟩ := hu
  obtain rfl : u = t := List.inj_on_of_nodup_map (hw₁.distinct hd) hu ht hid
  exact ⟨hw₁.trans hsame.sameButFront, rfl⟩

theorem list_window (hwindow : window.isSome) (xs : List Handle) :
    Completes h (v.SameButFront w) (Fronts xs)
      (Activity.call fun h : Host W T => h.query window none)
      fun w' ts => v.SameButFront w w' ∧ ts.map Tab.rest = (v.inWindow w window).map Tab.rest := by
  refine Completes.call (q := .query window none) trivial fun now w₁ hw₁ => ?_
  refine (hv.query now hw₁.1 window none).imp fun w' ts hts => ?_
  obtain ⟨hsame, hts⟩ := hts
  have hlisted : ts = v.inWindow w₁ window := by
    rw [hts]
    simp [TabView.inWindow, Option.isNone_eq_false_iff.2 hwindow]
  rw [hlisted, hw₁.inWindow window]
  exact ⟨hw₁.trans hsame.sameButFront, rfl⟩

theorem front_window (hx : x ∈ v.handles w window) :
    Completes h (v.SameButFront w) (Fronts (v.handles w window))
      (Activity.call fun h : Host W T => h.update (some x) { active := some true })
      fun w' _ => v.SameButFront w w' := by
  refine Completes.call (q := .update (some x) { active := some true }) ⟨rfl, x, hx, rfl⟩
    fun now w₁ hw₁ => ?_
  rw [← hw₁.handles window] at hx
  obtain ⟨t, ht, rfl, rfl⟩ := TabView.mem_handles.1 hx
  exact (hv.activate now hw₁.1 t ht).imp fun _ _ hw' => hw₁.trans hw'

/-- A step goes one tab further, or one back, in the window of the tab at hand. -/
theorem switchTab_turns (hd : ((v.tabs w).map (·.id)).Nodup) (hwindow : window.isSome)
    (hx : x ∈ v.handles w window) (params : Mapping) :
    Completes h (v.SameButFront w) (Fronts (v.handles w window)) (switchTab params (some x))
      fun w' r => v.SameButFront w w' ∧
        r = ⟨some (turn (v.cycle w window) (backwards params) x), none⟩ := by
  unfold switchTab
  refine (get_window hv hd hx).bind fun current => .of_pre (fun _ hw => hw) ?_
  rintro rfl
  refine (list_window hv hwindow _).bind fun found => .of_pre (fun _ hw => hw) fun hfound => ?_
  have hring : ring found = ring (v.inWindow w current.window) := ring_eq_of_rest hfound
  have hdistinct : (ring found).Nodup := by
    rw [hring]
    exact TabView.ring_nodup hd current.window
  have hmem : x ∈ ring found := by
    rw [hring]
    exact TabView.mem_ring.2 hx
  obtain ⟨target, -, hneighbour, hid⟩ := neighbour?_turns hdistinct hmem (backwards params)
  have hturned : target.id = turn (v.cycle w current.window) (backwards params) x := by
    rw [TabView.cycle, ← hring]
    exact hid
  have hfront : target.id ∈ v.handles w current.window := by
    rw [hturned]
    exact TabView.turn_cycle_mem hx _
  unfold backwards at hneighbour
  simp only [hneighbour]
  rw [← hturned]
  exact (front_window hv hfront).bind fun _ => .pure fun _ hw => ⟨hw, rfl⟩

end Switching

/-! ## Tours -/

/-- Steps that switch tabs, one after another; the tabs that they come to. -/
def tour [Clock T] : TabRef → List Mapping → Errand W T (List TabRef)
  | _, [] => pure []
  | tab, params :: rest => do
    let r ← switchTab params tab
    let later ← tour r.tab rest
    pure (r.tab :: later)

/-- The tabs along a permutation, one for each step. -/
def route (σ : Equiv.Perm Handle) (x : Handle) : List Mapping → List Handle
  | [] => []
  | params :: rest =>
    turn σ (backwards params) x :: route σ (turn σ (backwards params) x) rest

theorem route_mem {xs : List Handle} (path : List Mapping) {x y : Handle} (hx : x ∈ xs)
    (hy : y ∈ route xs.formPerm x path) : y ∈ xs := by
  induction path generalizing x with
  | nil => cases hy
  | cons params rest ih =>
    obtain rfl | hy := List.mem_cons.1 hy
    · exact turn_mem hx _
    · exact ih (turn_mem hx _) hy

theorem route_back (σ : Equiv.Perm Handle) (x : Handle) {there back : Mapping}
    (hback : backwards there ≠ backwards back) : (route σ x [there, back]).getLast? = some x := by
  simp only [route, turn]
  cases hthere : backwards there <;> cases hreturn : backwards back <;> simp_all

theorem route_forward (σ : Equiv.Perm Handle) {next : Mapping} (hnext : backwards next = false)
    (n : Nat) (x : Handle) :
    route σ x (List.replicate n next) = (List.range n).map fun k => (σ ^ (k + 1)) x := by
  induction n generalizing x with
  | zero => rfl
  | succ n ih =>
    have hturn : turn σ (backwards next) x = σ x := by rw [hnext]; rfl
    rw [List.replicate_succ, route, hturn, ih, List.range_succ_eq_map, List.map_cons, List.map_map]
    rfl

/-- As many steps as there are tabs are one turn of the ring. -/
theorem map_formPerm_pow {xs : List Handle} (hd : xs.Nodup) {i : Nat} (hi : i < xs.length) :
    ((List.range xs.length).map fun k => (xs.formPerm ^ (k + 1)) xs[i]) = xs.rotate (i + 1) := by
  refine List.ext_getElem (by simp) fun k hk hk' => ?_
  rw [List.getElem_map, List.getElem_range, List.formPerm_pow_apply_getElem _ hd,
    List.getElem_rotate]
  congr 2
  omega

theorem route_around {xs : List Handle} (hd : xs.Nodup) {x : Handle} (hx : x ∈ xs) {next : Mapping}
    (hnext : backwards next = false) :
    (route xs.formPerm x (List.replicate xs.length next)).Perm xs ∧
      (route xs.formPerm x (List.replicate xs.length next)).getLast? = some x := by
  obtain ⟨i, hi, rfl⟩ := List.mem_iff_getElem.1 hx
  rw [route_forward _ hnext]
  constructor
  · rw [map_formPerm_pow hd hi]
    exact List.rotate_perm xs (i + 1)
  · obtain ⟨m, hm⟩ : ∃ m, xs.length = m + 1 := Nat.exists_eq_add_one.2 (by omega)
    have hwhole : xs.formPerm ^ (m + 1) = 1 := by
      rw [← hm]
      exact List.formPerm_pow_length_eq_one_of_nodup xs hd
    rw [hm, List.range_succ, List.map_append, List.map_singleton, List.getLast?_concat, hwhole]
    rfl

section Touring
variable [Clock T] {h : Host W T} {v : TabView W} (hv : h.Serves v) {w : W}
  {window : Option Handle} (hd : ((v.tabs w).map (·.id)).Nodup) (hwindow : window.isSome)
include hv hd hwindow

theorem tour_route (path : List Mapping) {x : Handle} (hx : x ∈ v.handles w window) :
    Completes h (v.SameButFront w) (Fronts (v.handles w window)) (tour (some x) path)
      fun w' tabs => v.SameButFront w w' ∧
        tabs = (route (v.cycle w window) x path).map some := by
  induction path generalizing x with
  | nil => exact .pure fun _ hw => ⟨hw, rfl⟩
  | cons params rest ih =>
    have hturn := TabView.turn_cycle_mem hx (backwards params)
    refine (switchTab_turns hv hd hwindow hx params).bind fun r => .of_pre (fun _ hw => hw) ?_
    rintro rfl
    refine (ih hturn).bind fun later => .of_pre (fun _ hw => hw) ?_
    rintro rfl
    exact .pure fun _ hw => ⟨hw, rfl⟩

/-- The tabs of a window form one cycle, whatever their positions are: a step forward and a step
back undo each other, and as many steps forward as there are tabs come to every one of them once and
end where they started. No tab of another window is brought to the front or comes to be at hand. -/
theorem switchTab_cycles :
    ∃ σ : Equiv.Perm Handle,
      (∀ x, σ x ∈ v.handles w window ↔ x ∈ v.handles w window) ∧
      (∀ x ∈ v.handles w window, ∀ path,
        Completes h (v.SameButFront w) (Fronts (v.handles w window)) (tour (some x) path)
          (fun w' tabs => v.SameButFront w w' ∧ tabs = (route σ x path).map some) ∧
        ∀ y ∈ route σ x path, y ∈ v.handles w window) ∧
      (∀ x there back, backwards there ≠ backwards back →
        (route σ x [there, back]).getLast? = some x) ∧
      ∀ x ∈ v.handles w window, ∀ next, backwards next = false →
        (route σ x (List.replicate (v.handles w window).length next)).Perm (v.handles w window) ∧
        (route σ x (List.replicate (v.handles w window).length next)).getLast? = some x := by
  refine ⟨v.cycle w window, fun x => ?_, fun x hx path => ⟨tour_route hv hd hwindow path hx, ?_⟩,
    fun x there back hback => route_back _ x hback, fun x hx next hnext => ?_⟩
  · rw [← TabView.mem_ring, ← TabView.mem_ring]
    exact List.formPerm_mem_iff_mem
  · intro y hy
    exact TabView.mem_ring.1 (route_mem path (TabView.mem_ring.2 hx) hy)
  · have hperm : (ring (v.inWindow w window)).Perm (v.handles w window) := ring_perm _
    obtain ⟨haround, hlast⟩ :=
      route_around (TabView.ring_nodup hd window) (TabView.mem_ring.2 hx) hnext
    rw [hperm.length_eq] at haround hlast
    exact ⟨haround.trans hperm, hlast⟩

end Touring

/-- Three tabs of one window, two of them at one position, and a tab of another window between. -/
def scattered : SimBrowser where
  tabs := [
    { id := .number 5, window := some (.number 1), index := 3 },
    { id := .number 7, window := some (.number 2), active := true },
    { id := .number 2, window := some (.number 1), index := 3 },
    { id := .number 9, window := some (.number 1), index := 1, active := true }]

def onwards : Mapping := [(.text "direction", .text "next")]

theorem switchTab_cycles_scattered :
    (scattered.tabs.map (·.id)).Nodup ∧ (some (Handle.number 1)).isSome ∧
      SimBrowser.untroubled.SameButFront scattered scattered ∧
      ∃ σ : Equiv.Perm Handle,
        Completes SimBrowser.host (SimBrowser.untroubled.SameButFront scattered)
          (Fronts [.number 5, .number 2, .number 9])
          (tour (some (.number 9)) (List.replicate 3 onwards))
          (fun b tabs => SimBrowser.untroubled.SameButFront scattered b ∧
            tabs = (route σ (.number 9) (List.replicate 3 onwards)).map some) ∧
        (route σ (.number 9) (List.replicate 3 onwards)).Perm [.number 5, .number 2, .number 9] ∧
        (route σ (.number 9) (List.replicate 3 onwards)).getLast? = some (.number 9) := by
  have hd : (scattered.tabs.map (·.id)).Nodup := by decide
  have hwindow : (some (Handle.number 1)).isSome := rfl
  have hhandles : SimBrowser.untroubled.handles scattered (some (.number 1)) =
      [.number 5, .number 2, .number 9] := by rfl
  obtain ⟨σ, -, htour, -, hround⟩ := switchTab_cycles SimBrowser.host_serves
    (w := scattered) hd hwindow
  rw [hhandles] at htour hround
  have hx : Handle.number 9 ∈ [Handle.number 5, .number 2, .number 9] := by decide
  exact ⟨hd, hwindow, .refl ⟨rfl, rfl⟩, σ, (htour _ hx _).1, hround _ hx onwards (by decide)⟩

end Step
end BrowserFlow
