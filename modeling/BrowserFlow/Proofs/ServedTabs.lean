import BrowserFlow.Proofs.SimulatedTabs

/-!
Steps over a host that serves its tabs. Such a host answers every question about open tabs, and
truthfully; so a step that asks for no more comes to its end, and what it asked for is known however
it ends.

* `Activity.Completes`: from such worlds, by such questions, to such an end.
* `Host.Serves`: the laws of hosts.
* `SimBrowser.host_serves`: the simulated browser keeps to them while nothing is set to fail.
-/
namespace BrowserFlow
set_option autoImplicit false

variable {W T α β : Type}

/-! ## Activities that come to their end -/

/-- However long it takes, the reply is an answer in the end, and a right one. -/
inductive Reply.Answers (post : W → α → Prop) : Reply W T α → Prop
  | done {w rs a} : post w a → Answers post (.done w rs (.ok a))
  | sleep {w rs d k} : (∀ t, Answers post (k t)) → Answers post (.sleep w rs d k)

theorem Reply.Answers.imp {post post' : W → α → Prop} (hpost : ∀ w a, post w a → post' w a)
    {r : Reply W T α} (hr : r.Answers post) : r.Answers post' := by
  induction hr with
  | done ha => exact .done (hpost _ _ ha)
  | sleep _ ih => exact .sleep ih

variable [Clock T] {h : Host W T} {pre : W → Prop} {asks : (α : Type) → Host.Question α → Prop}

/-- From one scene to another by questions of this kind alone. -/
inductive Scene.Through (h : Host W T) (ds : List T) (asks : (α : Type) → Host.Question α → Prop) :
    Scene W T → Scene W T → Prop
  | refl (s : Scene W T) : Through h ds asks s s
  | ask {s s₁ : Scene W T} {α : Type} {q : Host.Question α} : Through h ds asks s s₁ → asks α q →
      Through h ds asks s ((Activity.call q.ask : Errand W T α) h ds s₁ ()).2.1

theorem Scene.Through.trans {ds : List T} {s s₁ s₂ : Scene W T} (h₁ : Through h ds asks s s₁)
    (h₂ : Through h ds asks s₁ s₂) : Through h ds asks s s₂ := by
  induction h₂ with
  | refl => exact h₁
  | ask _ hq ih => exact .ask ih hq

namespace Activity

/-- The activity gave a value that is right in the world at its end, or a deadline has passed. -/
def Delivers (ds : List T) (post : W → α → Prop) (r : Outcome α × Scene W T × Unit) : Prop :=
  (∃ a, r.1 = .done a ∧ post r.2.1.world a) ∨ ds ≠ [] ∧ ∃ k, r.1 = .expired k

/-- From a world like these the activity comes to an end like these unless a deadline passes first,
and asks nothing but such questions; it never fails. -/
def Completes (h : Host W T) (pre : W → Prop) (asks : (α : Type) → Host.Question α → Prop)
    (x : Errand W T α) (post : W → α → Prop) : Prop :=
  ∀ (ds : List T) (s : Scene W T), pre s.world →
    s.Through h ds asks (x h ds s ()).2.1 ∧ Delivers ds post (x h ds s ())

theorem follow_answers {post : W → α → Prop} {r : Reply W T α} (hr : r.Answers post) (ds : List T)
    (s : Scene W T) : Delivers ds post (follow ds () r s) := by
  induction hr generalizing s with
  | done ha => exact .inl ⟨_, rfl, ha⟩
  | @sleep w rs d k _ ih =>
    unfold follow
    dsimp only
    cases hwake : wake ds s.now d with
    | ok t => exact ih t _
    | error e =>
      refine .inr ⟨?_, e.1, rfl⟩
      rintro rfl
      rw [wake_nil] at hwake
      cases hwake

namespace Completes

variable {x : Errand W T α} {post : W → α → Prop}

theorem call {q : Host.Question α} (hq : asks α q)
    (hanswers : ∀ t w, pre w → (q.ask h t w).Answers post) :
    Completes h pre asks (Activity.call q.ask) post :=
  fun ds s hs => ⟨.ask (.refl s) hq, follow_answers (hanswers s.now s.world hs) ds s⟩

protected theorem pure {a : α} (ha : ∀ w, pre w → post w a) :
    Completes h pre asks (Pure.pure a) post :=
  fun _ s hs => ⟨.refl s, .inl ⟨a, rfl, ha s.world hs⟩⟩

theorem bind {mid : W → α → Prop} {f : α → Errand W T β} {post : W → β → Prop}
    (hx : Completes h pre asks x mid) (hf : ∀ a, Completes h (mid · a) asks (f a) post) :
    Completes h pre asks (x >>= f) post := by
  intro ds s hs
  rcases hr : x h ds s () with ⟨o, s₁, ⟨⟩⟩
  obtain ⟨hthrough, hend⟩ := hx ds s hs
  rw [hr] at hthrough hend
  obtain ⟨a, rfl, ha⟩ | ⟨hds, k, rfl⟩ := hend
  · rw [bind_done hr]
    obtain ⟨hrest, hend⟩ := hf a ds s₁ ha
    exact ⟨hthrough.trans hrest, hend⟩
  · rw [bind_halt (e := .expired k) hr]
    exact ⟨hthrough, .inr ⟨hds, k, rfl⟩⟩

/-- What is known of the world at the start may be used; not all of it has to be. -/
theorem of_pre {pre' : W → Prop} {c : Prop} (hpre : ∀ w, pre' w → pre w ∧ c)
    (hx : c → Completes h pre asks x post) : Completes h pre' asks x post :=
  fun ds s hs => hx (hpre s.world hs).2 ds s (hpre s.world hs).1

end Completes
end Activity

/-! ## Hosts that serve their tabs -/

/-- A tab but for whether it is in front. -/
def Tab.rest (t : Tab) : Tab := { t with active := false }

namespace TabView
variable (v : TabView W)

/-- The tabs of a window, in the order in which they are listed. -/
def inWindow (w : W) (window : Option Handle) : List Tab := (v.tabs w).filter (·.window == window)

def Unchanged (w w' : W) : Prop := v.sound w' ∧ v.tabs w' = v.tabs w

/-- The tabs are the same but for which of them are in front. -/
def SameButFront (w w' : W) : Prop :=
  v.sound w' ∧ (v.tabs w').map Tab.rest = (v.tabs w).map Tab.rest

/-- Just this tab has gone, and the others have stayed in their windows. -/
def Without (x : Handle) (w w' : W) : Prop :=
  v.sound w' ∧ ((v.tabs w').map fun t => (t.id, t.window)).Perm
    (((v.tabs w).filter (·.id ≠ x)).map fun t => (t.id, t.window))

end TabView

omit [Clock T] in
/-- Questions about open tabs are answered, and what is answered is so. -/
structure Host.Serves (h : Host W T) (v : TabView W) : Prop where
  get : ∀ (now : T) {w}, v.sound w → ∀ t ∈ v.tabs w, (h.get (some t.id) now w).Answers
    fun w' u => v.Unchanged w w' ∧ u ∈ v.tabs w ∧ u.id = t.id
  query : ∀ (now : T) {w}, v.sound w → ∀ window active, (h.query window active now w).Answers
    fun w' ts => v.Unchanged w w' ∧ ts = (v.tabs w).filter fun t =>
      (window.isNone || t.window == window) && (active.isNone || some t.active == active)
  /-- Which tabs are in front then is left open. -/
  activate : ∀ (now : T) {w}, v.sound w → ∀ t ∈ v.tabs w,
    (h.update (some t.id) { active := some true } now w).Answers fun w' _ => v.SameButFront w w'
  remove : ∀ (now : T) {w}, v.sound w → ∀ t ∈ v.tabs w,
    (h.remove [some t.id] now w).Answers fun w' _ => v.Without t.id w w'

namespace TabView
variable {v : TabView W} {w w' w'' : W} {window : Option Handle}

theorem Unchanged.sameButFront (hw : v.Unchanged w w') : v.SameButFront w w' :=
  ⟨hw.1, congrArg (List.map Tab.rest) hw.2⟩

theorem SameButFront.refl (hw : v.sound w) : v.SameButFront w w := ⟨hw, rfl⟩

theorem SameButFront.trans (h₁ : v.SameButFront w w') (h₂ : v.SameButFront w' w'') :
    v.SameButFront w w'' :=
  ⟨h₂.1, h₂.2.trans h₁.2⟩

theorem SameButFront.inWindow (hw : v.SameButFront w w') (window : Option Handle) :
    (v.inWindow w' window).map Tab.rest = (v.inWindow w window).map Tab.rest := by
  have hfilter (ts : List Tab) :
      (ts.filter (·.window == window)).map Tab.rest =
        (ts.map Tab.rest).filter (·.window == window) := by
    rw [List.filter_map]
    rfl
  unfold TabView.inWindow
  rw [hfilter, hfilter, hw.2]

theorem ids_eq_of_rest {ts ts' : List Tab} (h : ts'.map Tab.rest = ts.map Tab.rest) :
    ts'.map (·.id) = ts.map (·.id) := by
  have hids := congrArg (List.map (·.id)) h
  rw [List.map_map, List.map_map] at hids
  exact hids

end TabView

/-! ## The simulated browser -/

namespace SimBrowser

/-- The tabs of the simulated browser while none of its methods is set to fail. -/
def untroubled : TabView SimBrowser where
  sound b := b.failures = [] ∧ b.hidesTabs = false
  tabs := SimBrowser.tabs

variable {b : SimBrowser}

theorem answer_answers {α : Type} {name : String} {a : α} {b' : SimBrowser}
    {result : SimBrowser → SimBrowser × Except Fault α} {post : SimBrowser → α → Prop}
    (hb : b.failures = []) (hresult : result b = (b', .ok a)) (ha : post b' a) :
    (b.answer name result).Answers post := by
  unfold answer
  rw [hb, List.lookup_nil]
  dsimp only
  rw [hresult]
  exact .done ha

theorem withTab_open {α : Type} {t : Tab} (ht : t ∈ b.tabs)
    (f : SimBrowser → Tab → SimBrowser × α) :
    ∃ u ∈ b.tabs, u.id = t.id ∧ withTab (some t.id) f b = ((f b u).1, .ok (f b u).2) := by
  obtain ⟨u, hu⟩ : ∃ u, b.tab? (some t.id) = some u := by
    rw [← Option.isSome_iff_exists]
    exact List.find?_isSome.2 ⟨t, ht, beq_self_eq_true _⟩
  obtain ⟨hmem, hid⟩ := of_tab? hu
  refine ⟨u, hmem, (Option.some.inj hid).symm, ?_⟩
  unfold withTab
  rw [hu]

theorem activate_rest (b : SimBrowser) (t : Tab) :
    (b.activate t).tabs.map Tab.rest = b.tabs.map Tab.rest := by
  unfold activate
  rw [List.map_map]
  refine List.map_congr_left fun u _ => ?_
  rw [Function.comp_apply]
  split
  · rfl
  · split <;> rfl

theorem get_answers (now : Float) (hb : untroubled.sound b) {t : Tab} (ht : t ∈ b.tabs) :
    (get (some t.id) now b).Answers fun b' u =>
      untroubled.Unchanged b b' ∧ u ∈ b.tabs ∧ u.id = t.id := by
  obtain ⟨u, hu, hid, heq⟩ := withTab_open ht fun b t => (b, t)
  unfold get
  exact answer_answers hb.1 heq ⟨⟨hb, rfl⟩, hu, hid⟩

theorem query_answers (window : Option Handle) (active : Option Bool) (now : Float)
    (hb : untroubled.sound b) :
    (query window active now b).Answers fun b' ts =>
      untroubled.Unchanged b b' ∧ ts = b.tabs.filter fun t =>
        (window.isNone || t.window == window) && (active.isNone || some t.active == active) := by
  have hshown : ¬ b.hidesTabs = true := by
    rw [hb.2]
    exact Bool.false_ne_true
  unfold query
  exact answer_answers hb.1 (if_neg hshown) ⟨⟨hb, rfl⟩, rfl⟩

theorem activate_answers (now : Float) (hb : untroubled.sound b) {t : Tab} (ht : t ∈ b.tabs) :
    (update (some t.id) { active := some true } now b).Answers fun b' _ =>
      untroubled.SameButFront b b' := by
  unfold update
  generalize hb₁ : b.record now "update" _ = b₁
  have hrecord : b₁.tabs = b.tabs ∧ untroubled.sound b₁ := by
    subst hb₁
    exact ⟨rfl, hb⟩
  rw [← hrecord.1] at ht
  obtain ⟨u, -, -, heq⟩ := withTab_open ht fun b t => (b.activate t, ())
  refine answer_answers hrecord.2.1 heq ⟨hrecord.2, ?_⟩
  show (b₁.activate u).tabs.map Tab.rest = b.tabs.map Tab.rest
  rw [activate_rest, hrecord.1]

theorem close_sound (hb : untroubled.sound b) (xs : List TabRef) :
    untroubled.sound (b.close xs) := by
  unfold close
  dsimp only
  split <;> exact hb

theorem close_without (hb : untroubled.sound b) (x : Handle) :
    untroubled.Without x b (b.close [some x]) := by
  refine ⟨close_sound hb [some x], ?_⟩
  have hleft : (fun t : Tab => !([some x].contains (some t.id))) = fun t => decide (t.id ≠ x) := by
    funext t
    simp
  have hclose := (close_sameTabs b [some x]).tabs
  rw [hleft] at hclose
  exact .of_eq hclose

theorem remove_answers (now : Float) (hb : untroubled.sound b) (x : Handle) :
    (remove [some x] now b).Answers fun b' _ => untroubled.Without x b b' := by
  have hrecord : untroubled.sound (b.record now "remove" [.list ([some x].map refValue)]) := hb
  unfold remove
  exact answer_answers hb.1 rfl (close_without hrecord x)

theorem host_serves : host.Serves untroubled where
  get now _ hb _ ht := get_answers now hb ht
  query now _ hb window active := query_answers window active now hb
  activate now _ hb _ ht := activate_answers now hb ht
  remove now _ hb t _ := remove_answers now hb t.id

end SimBrowser

end BrowserFlow
