import BrowserFlow.Proofs.Items
import Mathlib.Data.List.Nodup

/-!
Tabs that are open, and what steps do to them. A view says what is to be seen of the tabs in a
world; a host keeps to a view when it closes a tab only on request and tells the truth about the
tabs it is asked for.

* `TabView`, `Host.KeepsTo`: tabs as they are seen, and the laws of hosts.
* `Host.KeepsTo.composed`: what removes no tab closes none, however it ends.
* `Run.block_stands`: a block that comes to an end hands on no tab, or an open one.
* `Step.closeTab_closes`: which tabs a step closes.
-/
namespace BrowserFlow
set_option autoImplicit false

variable {W T P α β : Type}

/-! ## Views and hosts -/

/-- What is to be seen of the tabs in a world. Only sound worlds have to keep to it. -/
structure TabView (W : Type) where
  sound : W → Prop
  tabs : W → List Tab

namespace TabView
variable (v : TabView W)

def IsOpen (w : W) (x : Handle) : Prop := ∃ t ∈ v.tabs w, t.id = x

/-- There is no tab at hand, or it is open. -/
def Stands (w : W) (tab : TabRef) : Prop := v.sound w ∧ ∀ x, tab = some x → v.IsOpen w x

/-- Of the tabs that were open, at most these have closed. -/
def Spares (xs : List TabRef) (w w' : W) : Prop :=
  v.sound w' ∧ ∀ x, v.IsOpen w x → some x ∉ xs → v.IsOpen w' x

end TabView

def Host.Question.closes : Host.Question α → List TabRef
  | remove xs => xs
  | _ => []

/-- What the answer to a question says about the tabs before it and after it. -/
def TabView.Tells (v : TabView W) (w : W) : {α : Type} → Host.Question α → W → α → Prop
  | _, .create _ _, w', x => ¬ v.IsOpen w x ∧ v.IsOpen w' x
  | _, .get tab, w', t => t ∈ v.tabs w' ∧ tab = some t.id
  | _, .remove xs, w', _ => ∀ x, some x ∈ xs → ¬ v.IsOpen w' x
  | _, .query window active, w', ts => ∀ t, t ∈ ts ↔ t ∈ v.tabs w' ∧
      (window.isSome → t.window = window) ∧ (active.isSome → some t.active = active)
  | _, _, _, _ => True

/-- Along a reply every world is as the first says, and its answer as the second. -/
inductive Reply.Leads (along : W → Prop) (answers : W → α → Prop) : Reply W T α → Prop
  | done {w rs a} : along w → answers w a → Leads along answers (.done w rs (.ok a))
  | failed {w rs f} : along w → Leads along answers (.done w rs (.error f))
  | sleep {w rs d k} : along w → (∀ t, Leads along answers (k t)) →
      Leads along answers (.sleep w rs d k)

/-- No tab closes by itself, and answers are true. What comes of an update or a reload of a tab that
is not open is left open. -/
structure Host.KeepsTo (h : Host W T) (v : TabView W) : Prop where
  distinct : ∀ {w}, v.sound w → ((v.tabs w).map (·.id)).Nodup
  windowed : ∀ {w}, v.sound w → ∀ t ∈ v.tabs w, t.window.isSome
  asked : ∀ {α} (q : Host.Question α) (t : T) {w}, v.sound w →
    (q.ask h t w).Leads (v.Spares q.closes w) (v.Tells w q)
  arrivals : ∀ (t : T) {w}, v.sound w → v.Spares [] w (h.arrivals t w).1

namespace TabView
variable {v : TabView W} {w w' w'' : W} {xs : List TabRef} {tab : TabRef}

theorem Spares.isOpen (hw : v.Spares [] w w') {x : Handle} (hx : v.IsOpen w x) : v.IsOpen w' x :=
  hw.2 x hx List.not_mem_nil

theorem Spares.stands (hw : v.Spares xs w w') (htab : v.Stands w tab) (hxs : tab ∉ xs) :
    v.Stands w' tab := by
  refine ⟨hw.1, fun x hx => ?_⟩
  subst hx
  exact hw.2 x (htab.2 x rfl) hxs

theorem Spares.trans (h₁ : v.Spares [] w w') (h₂ : v.Spares xs w' w'') : v.Spares xs w w'' :=
  ⟨h₂.1, fun x hx hxs => h₂.2 x (h₁.isOpen hx) hxs⟩

theorem stands_none (hw : v.sound w) : v.Stands w none := ⟨hw, nofun⟩

theorem stands_some {x : Handle} (hw : v.sound w) (hx : v.IsOpen w x) : v.Stands w (some x) := by
  refine ⟨hw, fun y hy => ?_⟩
  cases hy
  exact hx

end TabView

/-! ## Activities and the world -/

namespace Activity

/-- However the activity ends, its world has changed by `K`. -/
def Moves (K : W → W → Prop) (h : Host W T) (x : Activity W T P α) : Prop :=
  ∀ (ds : List T) (s : Scene W T) (p : P), K s.world (x h ds s p).2.1.world

/-- Whatever value the activity gives, it is right in the world at its end. -/
def Meets (h : Host W T) (pre : W → Prop) (x : Activity W T P α) (post : W → α → Prop) : Prop :=
  ∀ ⦃ds : List T⦄ ⦃s s' : Scene W T⦄ ⦃p p' : P⦄ ⦃a : α⦄, pre s.world →
    x h ds s p = (.done a, s', p') → post s'.world a

namespace Moves

variable {K : W → W → Prop} {h : Host W T}

theorem bind (htrans : ∀ w w' w'', K w w' → K w' w'' → K w w'') {x : Activity W T P α}
    {f : α → Activity W T P β} (hx : Moves K h x) (hf : ∀ a, Moves K h (f a)) :
    Moves K h (x >>= f) := by
  intro ds s p
  have hfirst := hx ds s p
  obtain ⟨a, s', p', hr⟩ | ⟨e, s', p', hr⟩ := ends x h ds s p
  · rw [hr] at hfirst
    rw [bind_done hr]
    exact htrans _ _ _ hfirst (hf a ds s' p')
  · rw [hr] at hfirst
    rw [bind_halt hr]
    exact hfirst

theorem attempt {x : Activity W T P α} (hx : Moves K h x) : Moves K h x.attempt := by
  intro ds s p
  have hend := hx ds s p
  unfold Activity.attempt
  split <;> simp_all

theorem within [Clock T] (htrans : ∀ w w' w'', K w w' → K w' w'' → K w w'')
    (harrivals : ∀ t w, K w (h.arrivals t w).1) {x : Activity W T P α} (hx : Moves K h x)
    (seconds : Float) (late : Fault) : Moves K h (Activity.within seconds late x) := by
  intro ds s p
  have hyield : K s.world (yielded h s).world := harrivals _ _
  cases hb : budget? seconds ds (yielded h s).now with
  | none =>
    rw [within_of_none hb]
    exact hyield
  | some inner =>
    rw [within_of_some hb]
    exact htrans _ _ _ hyield (hx inner (yielded h s) p)

/-- What every question and every pause does to the world, all that is made of them does. -/
theorem closed [Clock T] {counting removing : Prop} (hrefl : ∀ w, K w w)
    (htrans : ∀ w w' w'', K w w' → K w' w'' → K w w'') (harrivals : ∀ t w, K w (h.arrivals t w).1)
    (hask : ∀ {P α : Type} (q : Host.Question α), (q.Counts → counting) → (q.Removes → removing) →
      Moves K h (Activity.call q.ask : Activity W T P α)) :
    Closed counting removing fun _ _ (x _ : Activity W T _ _) => Moves K h x where
  pure _ := fun _ s _ => hrefl s.world
  fail _ := fun _ s _ => hrefl s.world
  get := fun _ s _ => hrefl s.world
  modify _ := fun _ s _ => hrefl s.world
  now := fun _ s _ => hrefl s.world
  sleep d := by
    intro ds s p
    rw [sleep_apply]
    split <;> exact harrivals _ _
  call := hask
  bind := bind htrans
  attempt := attempt
  lift hx := fun ds s _ => hx ds s ()
  within seconds late hx := within htrans harrivals hx seconds late

end Moves

namespace Meets

variable {h : Host W T} {pre : W → Prop} {x : Activity W T P α}

theorem imp {pre' : W → Prop} {post : W → α → Prop} (hpre : ∀ w, pre' w → pre w)
    (hx : Meets h pre x post) : Meets h pre' x post :=
  fun _ _ _ _ _ _ hw hr => hx (hpre _ hw) hr

theorem bind {f : α → Activity W T P β} {mid : W → α → Prop} {post : W → β → Prop}
    (hx : Meets h pre x mid) (hf : ∀ a, Meets h (mid · a) (f a) post) :
    Meets h pre (x >>= f) post := by
  intro ds s s' p p' b hpre hb
  obtain ⟨a, s₁, p₁, ha, hb⟩ := bind_eq_done.1 hb
  exact hf a (hx hpre ha) hb

protected theorem pure {post : W → α → Prop} {a : α} (ha : ∀ w, pre w → post w a) :
    Meets h pre (Pure.pure a : Activity W T P α) post := by
  intro ds s s' p p' b hpre hb
  cases hb
  exact ha _ hpre

theorem fail {post : W → α → Prop} (f : Fault) :
    Meets h pre (Activity.fail f : Activity W T P α) post := by
  intro ds s s' p p' a hpre ha
  cases ha

theorem ite {post : W → α → Prop} {c : Prop} [Decidable c] {y : Activity W T P α}
    (hx : c → Meets h pre x post) (hy : ¬ c → Meets h pre y post) :
    Meets h pre (if c then x else y) post := by
  split
  · exact hx ‹_›
  · exact hy ‹_›

theorem lift {post : W → α → Prop} {x : Errand W T α} (hx : Meets h pre x post) :
    Meets h pre (x.lift : Activity W T P α) post := by
  intro ds s s' p p' a hpre ha
  obtain ⟨ha, -⟩ := lift_eq_done.1 ha
  exact hx hpre ha

end Meets
end Activity

variable [Clock T]

/-! ## What a host that keeps to a view does -/

theorem Reply.Leads.follow {along : W → Prop} {answers : W → α → Prop} {r : Reply W T α}
    (hr : r.Leads along answers) {ds : List T} {p p' : P} {s s' : Scene W T} {o : Outcome α}
    (hx : Activity.follow ds p r s = (o, s', p')) :
    along s'.world ∧ ∀ a, o = .done a → answers s'.world a := by
  induction hr generalizing s with
  | done hw ha =>
    cases hx
    refine ⟨hw, fun b hb => ?_⟩
    cases hb
    exact ha
  | failed hw =>
    cases hx
    refine ⟨hw, fun a ha => ?_⟩
    cases ha
  | @sleep w rs d k hw hk ih =>
    unfold Activity.follow at hx
    dsimp only at hx
    cases hwake : Activity.wake ds s.now d with
    | ok t =>
      rw [hwake] at hx
      exact ih t hx
    | error e =>
      rw [hwake] at hx
      cases hx
      refine ⟨hw, fun a ha => ?_⟩
      cases ha

/-- No tab closes, but for activities that remove tabs. -/
def TabView.Keeps (v : TabView W) (removing : Prop) (w w' : W) : Prop :=
  v.sound w → v.sound w' ∧ (¬ removing → v.Spares [] w w')

namespace Host.KeepsTo

variable {v : TabView W} {h : Host W T} (hv : h.KeepsTo v)
include hv

theorem called (q : Question α) {ds : List T} {s s' : Scene W T} {p p' : P} {o : Outcome α}
    (hs : v.sound s.world) (hx : Activity.call q.ask h ds s p = (o, s', p')) :
    v.Spares q.closes s.world s'.world ∧ ∀ a, o = .done a → v.Tells s.world q s'.world a :=
  (hv.asked q s.now hs).follow hx

theorem closed (removing : Prop) :
    Activity.Closed True removing
      fun _ _ (x _ : Activity W T _ _) => Activity.Moves (v.Keeps removing) h x := by
  have hrefl (w : W) : v.Keeps removing w w := fun hw => ⟨hw, fun _ => ⟨hw, fun _ hx _ => hx⟩⟩
  have htrans (w w' w'' : W) (h₁ : v.Keeps removing w w') (h₂ : v.Keeps removing w' w'') :
      v.Keeps removing w w'' := by
    intro hw
    obtain ⟨hw', hkeep⟩ := h₁ hw
    obtain ⟨hw'', hkeep'⟩ := h₂ hw'
    exact ⟨hw'', fun hr => (hkeep hr).trans (hkeep' hr)⟩
  have harrivals (t : T) (w : W) : v.Keeps removing w (h.arrivals t w).1 := by
    intro hw
    have hspare := hv.arrivals t hw
    exact ⟨hspare.1, fun _ => hspare⟩
  refine Activity.Moves.closed hrefl htrans harrivals fun q _ hremoves ds s p hs => ?_
  rcases hx : Activity.call q.ask h ds s p with ⟨o, s', p'⟩
  obtain ⟨hspare, -⟩ := hv.called q hs hx
  refine ⟨hspare.1, fun hr => ?_⟩
  cases q with
  | remove xs => exact absurd (hremoves trivial) hr
  | _ => exact hspare

/-- No wait for an element closes a tab either. -/
theorem composed (removing : Prop) (pollMs : Int) :
    Activity.Composed True removing pollMs
      fun _ _ (x _ : Activity W T _ _) => Activity.Moves (v.Keeps removing) h x := by
  refine (hv.closed removing).composed ?_ pollMs
  intro P α ds s p hs
  exact ⟨hs, fun _ => ⟨hs, fun _ hx _ => hx⟩⟩

end Host.KeepsTo

/-! ## Steps that leave the tab alone -/

section Steps
variable {v : TabView W} {h : Host W T}

omit [Clock T] in
theorem Activity.Moves.stands {x : Activity W T P α} (hx : Activity.Moves (v.Keeps False) h x)
    (tab : TabRef) : Activity.Meets h (v.Stands · tab) x fun w _ => v.Stands w tab := by
  intro ds s s' p p' a htab hr
  have hkeep := hx ds s p htab.1
  rw [hr] at hkeep
  exact (hkeep.2 not_false).stands htab List.not_mem_nil

omit [Clock T] in
theorem Activity.Moves.unchanged {x : Activity W T P StepResult} {tab : TabRef}
    (hx : Activity.Moves (v.Keeps False) h x) (hg : Activity.Gives (·.tab = tab) x) :
    Activity.Meets h (v.Stands · tab) x fun w r => v.Stands w r.tab := by
  intro ds s s' p p' r htab hr
  have hsame : r.tab = tab := hg h ds s s' p p' r hr
  rw [hsame]
  exact hx.stands tab htab hr

variable (hv : h.KeepsTo v)
include hv

/-! ## Steps that find a tab -/

theorem Host.KeepsTo.lists (window : Option Handle) (active : Option Bool) :
    Activity.Meets h v.sound
      (Activity.call fun h : Host W T => h.query window active : Activity W T P (List Tab))
      fun w ts => v.sound w ∧ ∀ t ∈ ts, v.IsOpen w t.id := by
  intro ds s s' p p' ts hs hx
  obtain ⟨hspare, htells⟩ := hv.called (.query window active) hs hx
  refine ⟨hspare.1, fun t ht => ?_⟩
  obtain ⟨hopen, -⟩ := (htells ts rfl t).1 ht
  exact ⟨t, hopen, rfl⟩

namespace Step

theorem arrive_stands (e : Engagement) (tab : TabRef) :
    Activity.Meets h (v.Stands · tab)
      (awaitLoad e tab >>= fun _ => pure ⟨tab, none⟩ : Activity W T P StepResult)
      fun w r => v.Stands w r.tab := by
  have hmoves := (hv.closed False).awaitLoad (P := P) e tab
  exact (hmoves.stands tab).bind fun _ => .pure fun _ htab => htab

theorem create_stands (url : String) (front : Bool) :
    Activity.Meets h v.sound
      (Activity.call fun h : Host W T => h.create url front : Activity W T P Handle)
      fun w t => v.Stands w (some t) := by
  intro ds s s' p p' t hs hx
  obtain ⟨hspare, htells⟩ := hv.called (.create url front) hs hx
  obtain ⟨-, hopen⟩ := htells t rfl
  exact TabView.stands_some hspare.1 hopen

theorem navigate_stands (e : Engagement) (params : Mapping) (tab : TabRef) :
    Activity.Meets h (v.Stands · tab) (navigate e params tab : Activity W T P StepResult)
      fun w r => v.Stands w r.tab := by
  refine .ite (fun _ => .fail _) fun _ => ?_
  cases tab with
  | some t =>
    have hupdate := (hv.closed False).call (P := P)
      (.update (some t) { url := some (Mapping.named params "url").display }) nofun nofun
    refine (hupdate.stands (some t)).bind fun _ => ?_
    exact arrive_stands hv e (some t)
  | none =>
    have hcreate := create_stands hv (P := P) (Mapping.named params "url").display true
    exact (hcreate.imp fun _ htab => htab.1).bind fun t => arrive_stands hv e (some t)

theorem newTab_stands (e : Engagement) (params : Mapping) (tab : TabRef) :
    Activity.Meets h (v.Stands · tab) (newTab e params : Activity W T P StepResult)
      fun w r => v.Stands w r.tab :=
  ((create_stands hv _ _).imp fun _ htab => htab.1).bind fun t => arrive_stands hv e (some t)

theorem front_stands (t : Handle) :
    Activity.Meets h (v.Stands · (some t))
      (Activity.call (fun h : Host W T => h.update (some t) { active := some true }) >>= fun _ =>
        pure ⟨some t, none⟩ : Activity W T P StepResult)
      fun w r => v.Stands w r.tab := by
  have hupdate := (hv.closed False).call (P := P) (.update (some t) { active := some true }) nofun
    nofun
  exact (hupdate.stands (some t)).bind fun _ => .pure fun _ htab => htab

theorem activateTab_stands (params : Mapping) (tab : TabRef) :
    Activity.Meets h (v.Stands · tab) (activateTab params : Activity W T P StepResult)
      fun w r => v.Stands w r.tab := by
  refine ((hv.lists none none).imp fun _ htab => htab.1).bind fun ts => ?_
  split
  · rename_i t ht
    refine (front_stands hv t.id).imp fun w hts => ?_
    exact TabView.stands_some hts.1 (hts.2 t (List.mem_of_find?_eq_some ht))
  · exact .fail _

omit [Clock T] hv in
theorem mem_of_neighbour? {tabs : List Tab} {place : Nat} {backwards : Bool} {t : Tab}
    (ht : neighbour? (byIndex tabs) place backwards = some t) : t ∈ tabs := by
  have hmem : t ∈ byIndex tabs := List.mem_of_getElem? ht
  exact List.mem_mergeSort.1 hmem

theorem switchTab_stands (params : Mapping) (tab : TabRef) :
    Activity.Meets h (v.Stands · tab) (switchTab params tab : Activity W T P StepResult)
      fun w r => v.Stands w r.tab := by
  unfold switchTab
  cases tab with
  | none => exact .fail _
  | some t =>
    have hget := (hv.closed False).call (P := P) (.get (some t)) nofun nofun
    refine (hget.stands (some t)).bind fun current => ?_
    -- the tab at hand stays open while the tabs of its window are listed
    have hquery := (hv.closed False).call (P := P) (.query current.window none) nofun nofun
    have hlisted : Activity.Meets h (v.Stands · (some t))
        (Activity.call fun h : Host W T => h.query current.window none : Activity W T P (List Tab))
        fun w ts => v.Stands w (some t) ∧ ∀ t ∈ ts, v.IsOpen w t.id := by
      intro ds s s' p p' ts htab hx
      exact ⟨hquery.stands (some t) htab hx, (hv.lists _ _ htab.1 hx).2⟩
    refine hlisted.bind fun found => ?_
    dsimp only
    split
    · rename_i target htarget
      refine (front_stands hv target.id).imp fun w hts => ?_
      exact TabView.stands_some hts.1.1 (hts.2 target (mem_of_neighbour? htarget))
    · exact .pure fun _ hts => hts.1

end Step
end Steps

/-! ## Steps that close tabs -/

/-- What a step that closes tabs has done when it comes to an end, and the tab it hands on. -/
inductive Step.Closing (v : TabView W) (h : Host W T) (ds : List T) (params : Mapping)
    (tab : TabRef) (s s' : Scene W T) : TabRef → Prop
  /-- Of the tabs that are listed for the window of this tab, all but this one close. -/
  | others {t : Handle} {current : Tab} {listed : List Tab} {s₁ s₂ : Scene W T} :
      Parameter.choice (Mapping.named params "target") "current" = "others" → tab = some t →
      (Activity.call fun h => h.get (some t) : Errand W T Tab) h ds s () = (.done current, s₁, ()) →
      (Activity.call fun h => h.query current.window none : Errand W T (List Tab)) h ds s₁ () =
        (.done listed, s₂, ()) →
      v.Spares [] s.world s₂.world →
      (∀ other ∈ v.tabs s₂.world, v.IsOpen s'.world other.id ↔
        other.id = t ∨ other.window ≠ current.window) →
      Closing v h ds params tab s s' (some t)
  /-- This tab closes, if there is one; then a tab in front is at hand. -/
  | current {left : List Tab} {s₁ : Scene W T} :
      Parameter.choice (Mapping.named params "target") "current" ≠ "others" →
      (tab = none → s₁ = s) →
      (tab.isSome → (Activity.call fun h => h.remove [tab] : Errand W T Unit) h ds s () =
        (.done (), s₁, ())) →
      (∀ x, v.IsOpen s.world x → (v.IsOpen s₁.world x ↔ tab ≠ some x)) →
      (Activity.call fun h => h.query none (some true) : Errand W T (List Tab)) h ds s₁ () =
        (.done left, s', ()) →
      v.Spares [] s₁.world s'.world →
      Closing v h ds params tab s s' (left.head?.map (·.id))

section Closing
variable {v : TabView W} {h : Host W T} (hv : h.KeepsTo v) {ds : List T} {s s' : Scene W T}
  {params : Mapping} {tab : TabRef} {r : StepResult}
include hv

namespace Host.KeepsTo

theorem removed {xs : List TabRef} (hs : v.sound s.world)
    (hx : (Activity.call fun h => h.remove xs : Errand W T Unit) h ds s () = (.done (), s', ())) :
    v.sound s'.world ∧ ∀ x, v.IsOpen s.world x → (v.IsOpen s'.world x ↔ some x ∉ xs) := by
  obtain ⟨hspare, hgone⟩ := hv.called (.remove xs) hs hx
  refine ⟨hspare.1, fun x hopen => ⟨fun hstill hin => ?_, hspare.2 x hopen⟩⟩
  exact hgone () rfl x hin hstill

theorem removed_if_any {doomed : List Handle} {next : StepResult} (hs : v.sound s.world)
    (hx : (if doomed ≠ [] then
        Activity.call (fun h => h.remove (doomed.map some)) >>= fun _ => pure next
      else pure next : Errand W T StepResult) h ds s () = (.done r, s', ())) :
    r = next ∧ ∀ x, v.IsOpen s.world x → (v.IsOpen s'.world x ↔ x ∉ doomed) := by
  by_cases hnone : doomed = []
  · rw [if_neg (not_not_intro hnone)] at hx
    cases hx
    refine ⟨rfl, fun x hopen => iff_of_true hopen ?_⟩
    rw [hnone]
    exact List.not_mem_nil
  · rw [if_pos hnone] at hx
    obtain ⟨⟨⟩, s₁, ⟨⟩, hremove, hx⟩ := Activity.bind_eq_done.1 hx
    cases hx
    refine ⟨rfl, fun x hopen => ?_⟩
    have hmem : some x ∈ doomed.map some ↔ x ∈ doomed := by simp
    rw [← hmem]
    exact (hv.removed hs hremove).2 x hopen

omit [Clock T] in
/-- Of the tabs of a window, all but one are named by handles that name no other tab. -/
theorem mem_others {w : W} (hw : v.sound w) {window : Option Handle} {listed : List Tab}
    (hlisted : ∀ u, u ∈ listed ↔ u ∈ v.tabs w ∧ u.window = window) (t : Handle) {other : Tab}
    (hother : other ∈ v.tabs w) :
    other.id ∈ (listed.filter (·.id != t)).map (·.id) ↔ other.id ≠ t ∧ other.window = window := by
  have hnamed {u : Tab} (hu : u ∈ listed) (hid : u.id = other.id) : u = other :=
    List.inj_on_of_nodup_map (hv.distinct hw) ((hlisted u).1 hu).1 hother hid
  simp only [List.mem_map, List.mem_filter, bne_iff_ne]
  constructor
  · rintro ⟨u, ⟨hu, hne⟩, hid⟩
    obtain rfl := hnamed hu hid
    exact ⟨hne, ((hlisted u).1 hu).2⟩
  · rintro ⟨hne, hwindow⟩
    exact ⟨other, ⟨(hlisted other).2 ⟨hother, hwindow⟩, hne⟩, rfl⟩

end Host.KeepsTo

namespace Step

theorem closeTab_others (hs : v.sound s.world)
    (hothers : Parameter.choice (Mapping.named params "target") "current" = "others")
    (hx : (closeTab params tab : Errand W T StepResult) h ds s () = (.done r, s', ())) :
    Closing v h ds params tab s s' r.tab := by
  unfold closeTab at hx
  rw [if_pos hothers] at hx
  cases tab with
  | none => cases hx
  | some t =>
    obtain ⟨current, s₁, ⟨⟩, hget, hx⟩ := Activity.bind_eq_done.1 hx
    obtain ⟨listed, s₂, ⟨⟩, hquery, hx⟩ := Activity.bind_eq_done.1 hx
    obtain ⟨hspare₁, hcurrent⟩ := hv.called (.get (some t)) hs hget
    obtain ⟨hspare₂, hlisted⟩ := hv.called (.query current.window none) hspare₁.1 hquery
    obtain ⟨rfl, hremoved⟩ := hv.removed_if_any hspare₂.1 hx
    refine .others hothers rfl hget hquery (hspare₁.trans hspare₂) fun other hother => ?_
    -- the window is not missing, so only its tabs were listed
    have hwindow : current.window.isSome := hv.windowed hspare₁.1 current (hcurrent current rfl).1
    have hlisted (u : Tab) : u ∈ listed ↔ u ∈ v.tabs s₂.world ∧ u.window = current.window := by
      rw [hlisted listed rfl u]
      simp [hwindow]
    rw [hremoved other.id ⟨other, hother, rfl⟩, hv.mem_others hspare₂.1 hlisted t hother,
      not_and_or, not_ne_iff]

theorem closeTab_current (hs : v.sound s.world)
    (hcurrent : Parameter.choice (Mapping.named params "target") "current" ≠ "others")
    (hx : (closeTab params tab : Errand W T StepResult) h ds s () = (.done r, s', ())) :
    Closing v h ds params tab s s' r.tab := by
  have rest {s₁ : Scene W T} (hs₁ : v.sound s₁.world)
      (hx : (Activity.call (fun h : Host W T => h.query none (some true)) >>= fun left =>
        pure ⟨left.head?.map (·.id), none⟩ : Errand W T StepResult)
        h ds s₁ () = (.done r, s', ())) :
      ∃ left, (Activity.call fun h => h.query none (some true) : Errand W T (List Tab)) h ds s₁ () =
        (.done left, s', ()) ∧ v.Spares [] s₁.world s'.world ∧ r.tab = left.head?.map (·.id) := by
    obtain ⟨left, s₂, ⟨⟩, hquery, hx⟩ := Activity.bind_eq_done.1 hx
    cases hx
    exact ⟨left, hquery, (hv.called (.query none (some true)) hs₁ hquery).1, rfl⟩
  unfold closeTab at hx
  rw [if_neg hcurrent] at hx
  cases tab with
  | none =>
    obtain ⟨left, hquery, hspare, htab⟩ := rest hs hx
    rw [htab]
    exact .current hcurrent (fun _ => rfl) nofun (fun x hopen => iff_of_true hopen nofun) hquery
      hspare
  | some t =>
    obtain ⟨⟨⟩, s₁, ⟨⟩, hremove, hx⟩ := Activity.bind_eq_done.1 hx
    obtain ⟨hs₁, hremoved⟩ := hv.removed hs hremove
    obtain ⟨left, hquery, hspare, htab⟩ := rest hs₁ hx
    rw [htab]
    refine .current hcurrent nofun (fun _ => hremove) (fun x hopen => ?_) hquery hspare
    rw [hremoved x hopen, List.mem_singleton, eq_comm]

theorem closeTab_closes (hs : v.sound s.world)
    (hx : (closeTab params tab : Errand W T StepResult) h ds s () = (.done r, s', ())) :
    Closing v h ds params tab s s' r.tab := by
  by_cases ht : Parameter.choice (Mapping.named params "target") "current" = "others"
  · exact closeTab_others hv hs ht hx
  · exact closeTab_current hv hs ht hx

theorem Closing.stands {tab' : TabRef} (htab : v.Stands s.world tab) (hs' : v.sound s'.world)
    (hc : Closing v h ds params tab s s' tab') : v.Stands s'.world tab' := by
  cases hc with
  | @others t _ _ _ s₂ _ ht _ _ hspare hclosed =>
    obtain ⟨u, hu, rfl⟩ := hspare.isOpen (htab.2 t ht)
    exact TabView.stands_some hs' ((hclosed u hu).2 (.inl rfl))
  | @current left s₁ _ hnone hremove _ hquery _ =>
    have hs₁ : v.sound s₁.world := by
      cases tab with
      | none =>
        rw [hnone rfl]
        exact htab.1
      | some t => exact (hv.removed htab.1 (hremove rfl)).1
    obtain ⟨-, hfound⟩ := hv.lists none (some true) hs₁ hquery
    cases left with
    | nil => exact TabView.stands_none hs'
    | cons t ts => exact TabView.stands_some hs' (hfound t List.mem_cons_self)

end Step
end Closing

/-! ## Steps and blocks -/

section Blocks
variable {v : TabView W} {h : Host W T} (hv : h.KeepsTo v)
include hv

/-- Whatever a step does, it hands on no tab, or an open one. -/
theorem Step.perform_stands (e : Engagement) (kind : BlockKind) (params : Mapping) (tab : TabRef) :
    Activity.Meets h (v.Stands · tab) (perform e kind params tab : Errand W T StepResult)
      fun w r => v.Stands w r.tab := by
  by_cases hclose : kind = .closeTab
  · subst hclose
    intro ds s s' p p' r htab hx
    have hsound := (hv.composed True e.config.elementPollMs).perform .closeTab (fun _ => trivial)
      params tab ds s () htab.1
    rw [hx] at hsound
    exact (closeTab_closes hv htab.1 hx).stands hv htab hsound.1
  · have hmoves := (hv.composed False e.config.elementPollMs).perform (P := Unit) kind
      (fun hc => absurd hc hclose) params tab
    cases kind with
    | closeTab => exact absurd rfl hclose
    | navigate => exact navigate_stands hv e params tab
    | newTab => exact newTab_stands hv e params tab
    | activateTab => exact activateTab_stands hv params tab
    | switchTab => exact switchTab_stands hv params tab
    | condition | loop | forEach => exact .fail _
    | pinTab | muteTab | getTabInfo | screenshot =>
      exact hmoves.unchanged (.ite (.bind fun _ => .pure rfl) (.pure rfl))
    | refresh => exact hmoves.unchanged (.ite (.bind fun _ => .bind fun _ => .pure rfl) (.pure rfl))
    | wait => exact hmoves.unchanged (.bind fun _ => .bind fun _ => .bind fun _ => .pure rfl)
    | setVariable => exact hmoves.unchanged (.pure rfl)
    | _ =>
      refine hmoves.unchanged (.ite (.fail _) ?_)
      exact .bind fun _ => .bind fun _ => .bind fun _ => .pure rfl

theorem Step.execute_stands (e : Engagement) (store : Store) (b : Block) (tab : TabRef) :
    Activity.Meets h (v.Stands · tab) (execute e store b tab : Errand W T StepResult)
      fun w r => v.Stands w r.tab := by
  unfold execute
  split
  · exact .fail _
  · exact perform_stands hv e _ _ tab

/-- A block that comes to an end hands on no tab, or an open one. -/
theorem Run.block_stands (a : Assignment) (b : Block) (tab : TabRef) :
    Activity.Meets h (v.Stands · tab) (block a b tab : Run W T TabRef) v.Stands := by
  refine .ite (fun _ => ?_) fun _ => ?_
  · have hcheck := (hv.composed False a.engagement.config.elementPollMs).condition b tab
    exact (hcheck.stands tab).bind fun _ => .pure fun _ htab => htab
  · have hstore := (hv.closed False).store
    refine (hstore.stands tab).bind fun store => ?_
    refine (Step.execute_stands hv a.engagement store b tab).lift.bind fun r => ?_
    have hwrite := (hv.closed False).modify fun p : Progress T =>
      { p with store := p.store.apply r.write }
    exact (hwrite.stands r.tab).bind fun _ => .pure fun _ htab => htab

theorem Run.block_sound (a : Assignment) (b : Block) (tab : TabRef) (ds : List T) {s : Scene W T}
    (hs : v.sound s.world) (p : Progress T) : v.sound (block a b tab h ds s p).2.1.world :=
  ((hv.composed True _).block trivial b tab ds s p hs).1

/-- A block that closes tabs closes those that its parameters name. -/
theorem Run.block_closes {a : Assignment} {b : Block} {tab tab' : TabRef} {ds : List T}
    {s s' : Scene W T} {p p' : Progress T} (hb : b.kind? = some .closeTab)
    (hs : v.sound s.world) (hx : block a b tab h ds s p = (.done tab', s', p')) :
    Step.Closing v h ds (Template.interpolateAll p.store b.params) tab s s' tab' := by
  rw [block_handled, handle, if_neg (by rw [hb]; nofun)] at hx
  obtain ⟨r, s₁, p₁, hr, hwrite⟩ := Activity.bind_eq_done.1 hx
  obtain ⟨hr, -⟩ := Activity.lift_eq_done.1 hr
  cases hwrite
  rw [respond, hb] at hr
  exact Step.closeTab_closes hv hs hr

end Blocks

end BrowserFlow
