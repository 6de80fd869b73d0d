import BrowserFlow.Proofs.Closing
import BrowserFlow.Proofs.LiveTabs
import BrowserFlow.Proofs.Switching

/-!
Pages that were closed from outside. They stay registered, and a query walks over all pages of the
register, so that a single one of them is the end of every query and of every step that asks for the
tabs. A call about one page is refused for closed pages alone, and removing these is no trouble.

* `Reached`: a live browser after calls, whatever befell its pages.
* `Stalls`, `Goes`: steps while a page is registered that was closed from outside, and otherwise.
* `steps_reached`: which of the two it is.
-/
namespace BrowserFlow
set_option autoImplicit false

open Activity Step
open Host (Question)

/-- The page that a question is about, if it is about one. -/
def Host.Question.about {α : Type} : Question α → Option TabRef
  | update tab _ => some tab
  | get tab => some tab
  | reload tab => some tab
  | capture tab => some tab
  | awaitLoad tab => some tab
  | perform tab _ _ => some tab
  | _ => none

namespace LiveBrowser

variable {b : LiveBrowser}

/-- A live browser after calls. In between anything may happen to its pages, closing included, but
their handles stay with them. -/
inductive Reached : LiveBrowser → Prop
  | start (headless : Bool) (frontRefusal : Option Fault) :
      Reached ({ headless, frontRefusal } : LiveBrowser).start
  | call {b : LiveBrowser} (c : LiveCall) : Reached b → Reached (c.run b)
  | outside {b : LiveBrowser} {f : LivePage → LivePage} (hf : ∀ p, (f p).handle = p.handle) :
      Reached b → Reached { b with pages := b.pages.map f }

theorem Registered.of_same {b' : LiveBrowser} (hb : b.Registered)
    (hhandles : b'.handles = b.handles) (hnext : b'.next = b.next)
    (hactive : b'.active = b.active) : b'.Registered := by
  obtain ⟨hrising, hfresh, hidle, hfront⟩ := hb
  rw [← hhandles] at hrising hfresh hidle hfront
  rw [← hnext] at hfresh
  rw [← hactive] at hidle hfront
  exact ⟨hrising, hfresh, hidle, hfront⟩

theorem Reached.registered (hb : Reached b) : b.Registered := by
  induction hb with
  | start headless refusal => exact (registered_start headless).of_same rfl rfl rfl
  | call c _ ih =>
    obtain ⟨opened, -, heffect⟩ := c.run_effect _
    exact heffect.registered ih
  | outside hf _ ih =>
    refine ih.of_same ?_ rfl rfl
    unfold handles
    rw [List.map_map]
    exact List.map_congr_left fun p _ => hf p

theorem Reached.serve (calls : List LiveCall) (l : Ledger) (hb : Reached b) :
    Reached (serve calls b l).1 := by
  induction calls generalizing b l with
  | nil => exact hb
  | cons c cs ih => exact ih _ (.call c hb)

/-! ## Steps over the live browser -/

section Steps
variable {T : Type} [Clock T] {ds : List T} {s : Scene LiveBrowser T}

theorem call_done {α : Type} {f : Host LiveBrowser T → Call LiveBrowser T α} {w : LiveBrowser}
    {a : α} (hf : f host s.now s.world = .done w [] (.ok a)) :
    (Activity.call f : Errand LiveBrowser T α) host ds s () =
      (.done a, { s with world := w }, ()) := by
  rw [Activity.call, hf]
  rfl

theorem call_failed {α : Type} {f : Host LiveBrowser T → Call LiveBrowser T α} {w : LiveBrowser}
    {e : Fault} (hf : f host s.now s.world = .done w [] (.error e)) :
    (Activity.call f : Errand LiveBrowser T α) host ds s () =
      ((Halt.failed e).outcome, { s with world := w }, ()) := by
  rw [Activity.call, hf]
  rfl

theorem query_failed {f : Fault} {window : Option Handle} {active : Option Bool}
    (hquery : s.world.tabs window active = .error f) :
    (Activity.call fun h => h.query window active : Errand LiveBrowser T (List Tab)) host ds s () =
      ((Halt.failed f).outcome, s, ()) := by
  refine call_failed (w := s.world) ?_
  rw [← hquery]
  rfl

theorem query_done {ts : List Tab} {window : Option Handle} {active : Option Bool}
    (hquery : s.world.tabs window active = .ok ts) :
    (Activity.call fun h => h.query window active : Errand LiveBrowser T (List Tab)) host ds s () =
      (.done ts, s, ()) := by
  refine call_done (w := s.world) ?_
  rw [← hquery]
  rfl

theorem activateTab_stalls {f : Fault} (hquery : s.world.tabs none none = .error f)
    (params : Mapping) :
    (activateTab params : Errand LiveBrowser T StepResult) host ds s () = (.failed f, s, ()) :=
  bind_halt (e := .failed f) (query_failed hquery)

theorem get_done {t : Handle} {p : LivePage} (hp : s.world.page (some t) = .ok p) :
    (Activity.call fun h => h.get (some t) : Errand LiveBrowser T Tab) host ds s () =
      (.done (s.world.tabOf p), s, ()) := by
  refine call_done (w := s.world) ?_
  show Reply.done s.world [] (s.world.tab (some t)) = _
  rw [tab, hp]
  rfl

theorem switchTab_stalls {f : Fault} {t : Handle} {p : LivePage}
    (hp : s.world.page (some t) = .ok p) (hquery : ∀ window, s.world.tabs window none = .error f)
    (params : Mapping) :
    (switchTab params (some t) : Errand LiveBrowser T StepResult) host ds s () =
      (.failed f, s, ()) := by
  unfold switchTab
  refine (bind_done (get_done hp)).trans ?_
  exact bind_halt (e := .failed f) (query_failed (hquery _))

theorem closeTab_others_stalls {f : Fault} {t : Handle} {p : LivePage}
    (hp : s.world.page (some t) = .ok p) (hquery : ∀ window, s.world.tabs window none = .error f)
    {params : Mapping}
    (hothers : Parameter.choice (Mapping.named params "target") "current" = "others") :
    (closeTab params (some t) : Errand LiveBrowser T StepResult) host ds s () =
      (.failed f, s, ()) := by
  unfold closeTab
  rw [if_pos hothers]
  refine (bind_done (get_done hp)).trans ?_
  exact bind_halt (e := .failed f) (query_failed (hquery _))

theorem remove_done {xs : List TabRef} (hfault : s.world.removalFault? xs = none) :
    (Activity.call fun h => h.remove xs : Errand LiveBrowser T Unit) host ds s () =
      (.done (), { s with world := s.world.removePages xs }, ()) := by
  refine call_done ?_
  show atOnce (closePages xs) s.now s.world = _
  rw [atOnce, closePages, hfault]

theorem remove_failed {xs : List TabRef} {f : Fault}
    (hfault : s.world.removalFault? xs = some f) :
    (Activity.call fun h => h.remove xs : Errand LiveBrowser T Unit) host ds s () =
      ((Halt.failed f).outcome, { s with world := s.world.removePages xs }, ()) := by
  refine call_failed ?_
  show atOnce (closePages xs) s.now s.world = _
  rw [atOnce, closePages, hfault]

/-- The tab is closed before the others are asked for, and if the next page does not come to the
front they are not asked for at all. -/
theorem closeTab_current_stalls {f : Fault} {t : Handle}
    (hquery : (s.world.removePages [some t]).tabs none (some true) = .error f) {params : Mapping}
    (hcurrent : Parameter.choice (Mapping.named params "target") "current" ≠ "others") :
    (closeTab params (some t) : Errand LiveBrowser T StepResult) host ds s () =
      (.failed ((s.world.removalFault? [some t]).getD f),
        { s with world := s.world.removePages [some t] }, ()) := by
  unfold closeTab
  rw [if_neg hcurrent]
  cases hfault : s.world.removalFault? [some t] with
  | some g => exact bind_halt (e := .failed g) (remove_failed hfault)
  | none =>
    refine (bind_done (remove_done hfault)).trans ?_
    exact bind_halt (e := .failed f) (query_failed hquery)

/-- Every query fails with this fault, and with it every step on an open tab that asks for the tabs.
Closing the tab at hand fails as well, but only after that tab is gone; when the next page was
itself closed from outside, the browser program may refuse to bring it to the front, with a fault of
its own. -/
structure Stalls (T : Type) [Clock T] (b : LiveBrowser) (f : Fault) : Prop where
  query : ∀ window active, b.tabs window active = .error f
  activate : ∀ (params : Mapping) (ds : List T) (s : Scene LiveBrowser T), s.world = b →
    activateTab params host ds s () = (.failed f, s, ())
  switch : ∀ (params : Mapping) (ds : List T) (s : Scene LiveBrowser T) (t : Handle) (p : LivePage),
    s.world = b → b.page (some t) = .ok p →
    switchTab params (some t) host ds s () = (.failed f, s, ())
  closeOthers : ∀ (params : Mapping) (ds : List T) (s : Scene LiveBrowser T) (t : Handle)
    (p : LivePage), s.world = b → b.page (some t) = .ok p →
    Parameter.choice (Mapping.named params "target") "current" = "others" →
    closeTab params (some t) host ds s () = (.failed f, s, ())
  closeCurrent : ∀ (params : Mapping) (ds : List T) (s : Scene LiveBrowser T) (t : Handle)
    (p : LivePage), s.world = b → b.page (some t) = .ok p →
    Parameter.choice (Mapping.named params "target") "current" ≠ "others" →
    closeTab params (some t) host ds s () =
      (.failed ((b.removalFault? [some t]).getD f), { s with world := b.removePages [some t] }, ())

omit [Clock T] in
/-- The first page that was closed from outside stays the first one when an open page is removed. -/
theorem Registered.find?_removePages (hb : b.Registered) {t : Handle} {p : LivePage}
    (hp : b.page (some t) = .ok p) :
    (b.removePages [some t]).pages.find? (·.closed) = b.pages.find? (·.closed) := by
  rw [(removePages_pages _ b).1, ← List.head?_filter, ← List.head?_filter, List.filter_filter]
  congr 1
  refine List.filter_congr fun q hq => ?_
  cases hclosed : q.closed with
  | false => rfl
  | true =>
    rw [Bool.true_and, decide_eq_true_eq, List.mem_singleton]
    intro heq
    -- the page that is removed is an open one, and this one is not
    have hpage := hb.page_handle hq
    rw [heq, hp, hclosed] at hpage
    cases hpage

theorem Registered.stalls (hb : b.Registered) {p : LivePage}
    (hp : b.pages.find? (·.closed) = some p) :
    b.Stalls T (.tabNotOpen (some (nameOf p.handle))) := by
  have hquery (window : Option Handle) (active : Option Bool) :
      b.tabs window active = .error (.tabNotOpen (some (nameOf p.handle))) := by
    rw [hb.tabs_eq, hp]
  constructor
  case query => exact hquery
  case activate =>
    rintro params ds s rfl
    exact activateTab_stalls (hquery none none) params
  case switch =>
    rintro params ds s t q rfl hq
    exact switchTab_stalls hq (hquery · none) params
  case closeOthers =>
    rintro params ds s t q rfl hq hothers
    exact closeTab_others_stalls hq (hquery · none) hothers
  case closeCurrent =>
    rintro params ds s t q rfl hq hcurrent
    have hleft : (s.world.removePages [some t]).Registered :=
      (removePages_effect [some t] s.world).registered hb
    refine closeTab_current_stalls ?_ hcurrent
    rw [hleft.tabs_eq, hb.find?_removePages hq, hp]

end Steps

/-! ## While no page was closed from outside -/

/-- The tabs of the live browser while none of its pages was closed from outside. -/
def undisturbed : TabView LiveBrowser where
  sound b := b.Registered ∧ ∀ p ∈ b.pages, p.closed = false
  tabs b := b.pages.map b.tabOf

section Intact
variable (hb : undisturbed.sound b)
include hb

theorem page_intact {p : LivePage} (hp : p ∈ b.pages) :
    b.page (some (nameOf p.handle)) = .ok p := by
  rw [hb.1.page_handle hp, hb.2 p hp]
  rfl

theorem Effect.sound {b' : LiveBrowser} {spares : Handle → Bool} {opened : List Nat}
    (heffect : b.Effect b' spares opened) : undisturbed.sound b' :=
  ⟨heffect.registered hb.1, heffect.intact hb.2⟩

theorem activate_sameButFront {p : LivePage} (hp : p ∈ b.pages) :
    undisturbed.SameButFront b (b.activate p.handle) := by
  have hstays : b.Stays (b.activate p.handle) := .activate (List.mem_map_of_mem hp)
  refine ⟨hstays.effect.sound hb, ?_⟩
  show (b.pages.map (b.activate p.handle).tabOf).map Tab.rest = (b.pages.map b.tabOf).map Tab.rest
  rw [List.map_map, List.map_map]
  rfl

theorem changePage_front {p : LivePage} (hp : p ∈ b.pages) :
    changePage (some (nameOf p.handle)) { active := some true } b =
      (b.activate p.handle, .ok ()) := by
  rw [changePage, page_intact hb hp]
  rfl

theorem removePages_without (x : Handle) : undisturbed.Without x b (b.removePages [some x]) := by
  refine ⟨(removePages_effect [some x] b).sound hb, .of_eq ?_⟩
  have hpages : (b.removePages [some x]).pages = b.pages.filter fun p => nameOf p.handle ≠ x := by
    rw [(removePages_pages _ b).1]
    refine List.filter_congr fun p _ => decide_eq_decide.2 ?_
    rw [List.mem_singleton, Option.some_inj]
  show ((b.removePages [some x]).pages.map _).map _ = ((b.pages.map b.tabOf).filter _).map _
  rw [List.map_map, List.filter_map, List.map_map, hpages]
  rfl

end Intact

/-- While no page is closed from outside, the live browser serves its tabs. -/
theorem host_serves {T : Type} : (host : Host LiveBrowser T).Serves undisturbed where
  get now b hb t ht := by
    obtain ⟨p, hp, rfl⟩ := List.mem_map.1 ht
    have hget : b.tab (some (nameOf p.handle)) = .ok (b.tabOf p) := by
      rw [tab, page_intact hb hp]
      rfl
    show Reply.Answers _ (.done b [] (b.tab (some (nameOf p.handle))))
    rw [hget]
    exact .done ⟨⟨hb, rfl⟩, ht, rfl⟩
  query now b hb window active := by
    show Reply.Answers _ (.done b [] (b.tabs window active))
    rw [hb.1.tabs_intact hb.2]
    exact .done ⟨⟨hb, rfl⟩, rfl⟩
  activate now b hb t ht := by
    obtain ⟨p, hp, rfl⟩ := List.mem_map.1 ht
    show Reply.Answers _
      (atOnce (changePage (some (nameOf p.handle)) { active := some true }) now b)
    rw [atOnce, changePage_front hb hp]
    exact .done (activate_sameButFront hb hp)
  remove now b hb t ht := by
    have hwithout := removePages_without hb t.id
    have hfault : b.removalFault? [some t.id] = none := removalFault?_of_open _ hwithout.1.2
    show Reply.Answers _ (atOnce (closePages [some t.id]) now b)
    rw [atOnce, closePages, hfault]
    exact .done hwithout

/-- Whether a tab is the one that a step looks for. -/
def sought (params : Mapping) : Tab → Bool :=
  isMatch (Parameter.choice (Mapping.named params "match_type") "contains" == "exact")
    (Text.lower (textOf (Mapping.named params "query")))

section Steps
variable {T : Type} [Clock T] {ds : List T} {s : Scene LiveBrowser T}
  (hs : undisturbed.sound s.world) {p : LivePage} (hp : p ∈ s.world.pages)
include hs

theorem list_done {window : Option Handle}
    (hwindow : window = none ∨ window = some LiveBrowser.window) :
    (Activity.call fun h => h.query window none : Errand LiveBrowser T (List Tab)) host ds s () =
      (.done (s.world.pages.map s.world.tabOf), s, ()) := by
  refine query_done ?_
  rw [hs.1.tabs_intact hs.2, List.filter_eq_self.2]
  intro t ht
  obtain ⟨p, -, rfl⟩ := List.mem_map.1 ht
  obtain rfl | rfl := hwindow <;> rfl

theorem activateTab_goes {params : Mapping}
    (hfound : s.world.pages.find? (fun p => sought params (s.world.tabOf p)) = some p) :
    (activateTab params : Errand LiveBrowser T StepResult) host ds s () =
      (.done ⟨some (nameOf p.handle), none⟩,
        { s with world := s.world.activate p.handle }, ()) := by
  have hmatch : (s.world.pages.map s.world.tabOf).find? (sought params) =
      some (s.world.tabOf p) := by
    rw [List.find?_map]
    exact congrArg (Option.map s.world.tabOf) hfound
  have hfront : (Activity.call fun h => h.update (some (nameOf p.handle)) { active := some true } :
      Errand LiveBrowser T Unit) host ds s () =
        (.done (), { s with world := s.world.activate p.handle }, ()) := by
    refine call_done ?_
    show atOnce (changePage (some (nameOf p.handle)) { active := some true }) s.now s.world = _
    rw [atOnce, changePage_front hs (List.mem_of_find?_eq_some hfound)]
  unfold activateTab
  refine (bind_done (list_done hs (.inl rfl))).trans ?_
  unfold sought at hmatch
  rw [hmatch]
  exact bind_done hfront

theorem activateTab_misses {params : Mapping}
    (hnone : s.world.pages.find? (fun p => sought params (s.world.tabOf p)) = none) :
    (activateTab params : Errand LiveBrowser T StepResult) host ds s () =
      (.failed (.tabNotFound (Text.lower (textOf (Mapping.named params "query")))), s, ()) := by
  have hmatch : (s.world.pages.map s.world.tabOf).find? (sought params) = none := by
    rw [List.find?_map]
    exact congrArg (Option.map s.world.tabOf) hnone
  unfold activateTab
  refine (bind_done (list_done hs (.inl rfl))).trans ?_
  unfold sought at hmatch
  rw [hmatch]
  rfl

theorem closeTab_current_goes {t : Handle} {params : Mapping}
    (hcurrent : Parameter.choice (Mapping.named params "target") "current" ≠ "others") :
    (closeTab params (some t) : Errand LiveBrowser T StepResult) host ds s () =
      (.done ⟨(s.world.removePages [some t]).active.map nameOf, none⟩,
        { s with world := s.world.removePages [some t] }, ()) := by
  have hleft := (removePages_effect [some t] s.world).sound hs
  have hfront : (s.world.removePages [some t]).tabs none (some true) =
      .ok (((s.world.removePages [some t]).pages.map (s.world.removePages [some t]).tabOf).filter
        (·.active)) := by
    rw [hleft.1.tabs_intact hleft.2, asked_front]
  unfold closeTab
  rw [if_neg hcurrent]
  refine (bind_done (remove_done (removalFault?_of_open _ hleft.2))).trans ?_
  refine (bind_done (query_done hfront)).trans ?_
  rw [hleft.1.front_eq]
  rfl

include hp

theorem closeTab_others_goes {params : Mapping}
    (hothers : Parameter.choice (Mapping.named params "target") "current" = "others") :
    ∃ b', (closeTab params (some (nameOf p.handle)) : Errand LiveBrowser T StepResult)
        host ds s () = (.done ⟨some (nameOf p.handle), none⟩, { s with world := b' }, ()) ∧
      b'.pages = [p] := by
  generalize hdoomed : ((s.world.pages.map s.world.tabOf).filter (·.id != nameOf p.handle)).map
    (·.id) = doomed
  have hleft : (s.world.removePages (doomed.map some)).pages = [p] := by
    rw [(removePages_pages _ _).1, ← hs.1.filter_handle hp]
    refine List.filter_congr fun q hq => ?_
    rw [Bool.eq_iff_iff, decide_eq_true_eq, beq_iff_eq]
    have hdoom : some (nameOf q.handle) ∈ doomed.map some ↔ q.handle ≠ p.handle := by
      rw [List.mem_map_of_injective (Option.some_injective _), ← hdoomed]
      constructor
      · intro hmem hsame
        obtain ⟨t, ht, hid⟩ := List.mem_map.1 hmem
        have hother := (List.mem_filter.1 ht).2
        rw [hid, hsame, bne_self_eq_false] at hother
        cases hother
      · intro hother
        have hlisted : s.world.tabOf q ∈ s.world.pages.map s.world.tabOf := List.mem_map_of_mem hq
        have hkept : ((s.world.tabOf q).id != nameOf p.handle) = true :=
          bne_iff_ne.2 (mt nameOf_inj.1 hother)
        exact List.mem_map.2 ⟨_, List.mem_filter.2 ⟨hlisted, hkept⟩, rfl⟩
    rw [hdoom, not_not]
  have hstart : (closeTab params (some (nameOf p.handle)) : Errand LiveBrowser T StepResult)
      host ds s () = (do
        if doomed ≠ [] then
          Activity.call fun h : Host LiveBrowser T => h.remove (doomed.map some)
        pure ⟨some (nameOf p.handle), none⟩ : Errand LiveBrowser T StepResult) host ds s () := by
    unfold closeTab
    rw [if_pos hothers, ← hdoomed]
    refine (bind_done (get_done (page_intact hs hp))).trans ?_
    exact bind_done (list_done hs (.inr rfl))
  -- without others nothing is asked of the host, and the one page is the whole register
  by_cases hnone : doomed = []
  · refine ⟨s.world, ?_, ?_⟩
    · rw [hstart, hnone]
      rfl
    · rw [← hleft, hnone, (removePages_pages _ _).1]
      exact (List.filter_eq_self.2 fun _ _ => rfl).symm
  · refine ⟨s.world.removePages (doomed.map some), ?_, hleft⟩
    have hopen : ∀ q ∈ (s.world.removePages (doomed.map some)).pages, q.closed = false := by
      rw [hleft, List.forall_mem_singleton]
      exact hs.2 p hp
    rw [hstart, if_pos hnone]
    exact bind_done (remove_done (removalFault?_of_open _ hopen))

end Steps

/-- Every query succeeds and lists just what it asks for, and the steps on a tab do what they are
for: the tab that is sought is brought to the front, the next tab of the window is gone to, and the
tab at hand or all others are closed. -/
structure Goes (T : Type) [Clock T] (b : LiveBrowser) : Prop where
  query : ∀ window active,
    b.tabs window active = .ok ((b.pages.map b.tabOf).filter (asked window active))
  activate : ∀ (params : Mapping) (ds : List T) (s : Scene LiveBrowser T) (p : LivePage),
    s.world = b → b.pages.find? (fun p => sought params (b.tabOf p)) = some p →
    activateTab params host ds s () =
      (.done ⟨some (nameOf p.handle), none⟩, { s with world := b.activate p.handle }, ())
  miss : ∀ (params : Mapping) (ds : List T) (s : Scene LiveBrowser T),
    s.world = b → b.pages.find? (fun p => sought params (b.tabOf p)) = none →
    activateTab params host ds s () =
      (.failed (.tabNotFound (Text.lower (textOf (Mapping.named params "query")))), s, ())
  switch : ∀ (params : Mapping), ∀ p ∈ b.pages,
    Completes (host : Host LiveBrowser T) (undisturbed.SameButFront b)
      (Fronts (undisturbed.handles b (some window))) (switchTab params (some (nameOf p.handle)))
      fun b' r => undisturbed.SameButFront b b' ∧ r = ⟨some
        (turn (undisturbed.cycle b (some window)) (backwards params) (nameOf p.handle)), none⟩
  closeOthers : ∀ (params : Mapping) (ds : List T) (s : Scene LiveBrowser T), s.world = b →
    Parameter.choice (Mapping.named params "target") "current" = "others" → ∀ p ∈ b.pages,
    ∃ b', closeTab params (some (nameOf p.handle)) host ds s () =
      (.done ⟨some (nameOf p.handle), none⟩, { s with world := b' }, ()) ∧ b'.pages = [p]
  closeCurrent : ∀ (params : Mapping) (ds : List T) (s : Scene LiveBrowser T) (t : Handle),
    s.world = b → Parameter.choice (Mapping.named params "target") "current" ≠ "others" →
    closeTab params (some t) host ds s () =
      (.done ⟨(b.removePages [some t]).active.map nameOf, none⟩,
        { s with world := b.removePages [some t] }, ())

theorem goes_of_sound {T : Type} [Clock T] (hb : undisturbed.sound b) : b.Goes T := by
  constructor
  case query => exact hb.1.tabs_intact hb.2
  case activate =>
    rintro params ds s p rfl hfound
    exact activateTab_goes hb hfound
  case miss =>
    rintro params ds s rfl hnone
    exact activateTab_misses hb hnone
  case switch =>
    intro params p hp
    have hdistinct : ((b.pages.map b.tabOf).map (·.id)).Nodup := by
      have hhandles := List.Nodup.map (fun _ _ => nameOf_inj.1) (hb.1.rising.imp Nat.ne_of_lt)
      rw [List.map_map]
      rwa [handles, List.map_map] at hhandles
    have hmem : nameOf p.handle ∈ undisturbed.handles b (some window) :=
      TabView.mem_handles.2 ⟨b.tabOf p, List.mem_map_of_mem hp, rfl, rfl⟩
    exact switchTab_turns host_serves hdistinct rfl hmem params
  case closeOthers =>
    rintro params ds s rfl hothers p hp
    exact closeTab_others_goes hb hp hothers
  case closeCurrent =>
    rintro params ds s t rfl hcurrent
    exact closeTab_current_goes hb hcurrent

/-! ## Any live browser -/

section Questions
variable {T α : Type} {q : Question α} {tab : TabRef}

theorem withPage_refused {f : Fault} (hp : b.page tab = .error f) (g : LivePage → LiveBrowser × α) :
    (Reply.done (b.withPage tab g).1 [] (b.withPage tab g).2 : Reply LiveBrowser T α) =
      .done b [] (.error f) := by
  rw [withPage, hp]

theorem ask_refused (hq : q.about = some tab) {f : Fault} (hp : b.page tab = .error f) (now : T) :
    q.ask host now b = .done b [] (.error f) := by
  cases q with
  | create url front => cases hq
  | remove xs => cases hq
  | query window active => cases hq
  | update _ change =>
    cases hq
    show atOnce (changePage _ change) now b = _
    rw [atOnce, changePage, hp]
  | get _ =>
    cases hq
    show Reply.done b [] (b.tab _) = _
    rw [LiveBrowser.tab, hp]
    rfl
  | reload _ =>
    cases hq
    exact withPage_refused hp fun p => (b.issue (.reload p.handle), ())
  | capture _ =>
    cases hq
    exact withPage_refused hp fun p => (b.issue (.screenshot p.handle), picture p)
  | awaitLoad _ =>
    cases hq
    exact withPage_refused hp fun p => (b.issue (.awaitLoad p.handle), ())
  | perform _ action params =>
    cases hq
    show atOnce (evaluate _ action params) now b = _
    rw [atOnce, evaluate, hp]

end Questions

/-- The handles of the pages that were closed from outside. -/
def stale (b : LiveBrowser) : List TabRef :=
  (b.pages.filter (·.closed)).map fun p => some (nameOf p.handle)

theorem Registered.removePages_stale (hb : b.Registered) :
    (b.removePages b.stale).pages = b.pages.filter fun p => !p.closed := by
  rw [(removePages_pages _ b).1]
  refine List.filter_congr fun p hp => ?_
  rw [Bool.eq_iff_iff, decide_eq_true_eq, Bool.not_eq_true', ← Bool.not_eq_true]
  refine not_congr ⟨fun hmem => ?_, fun hclosed => ?_⟩
  · obtain ⟨q, hq, hname⟩ := List.mem_map.1 hmem
    obtain ⟨hq, hclosed⟩ := List.mem_filter.1 hq
    have hsame : q.handle = p.handle := nameOf_inj.1 (Option.some_inj.1 hname)
    have honly : q ∈ [p] := by
      rw [← hb.filter_handle hp]
      exact List.mem_filter.2 ⟨hq, beq_iff_eq.2 hsame⟩
    rwa [← List.mem_singleton.1 honly]
  · exact List.mem_map.2 ⟨p, List.mem_filter.2 ⟨hp, hclosed⟩, rfl⟩

/-- A call about one page is refused for pages that are closed or not registered, and for no others.
A query fails as long as a single registered page is closed, and so do the steps that make one; the
closed pages can be removed, and then all goes on as before. -/
theorem steps_reached {T : Type} [Clock T] (hb : Reached b) :
    (∀ p ∈ b.pages, p.closed = false → b.page (some (nameOf p.handle)) = .ok p) ∧
    (∀ tab, (∀ p ∈ b.pages, p.closed = false → tab ≠ some (nameOf p.handle)) →
      ∀ {α : Type} (q : Question α) (now : T), q.about = some tab →
        q.ask host now b = .done b [] (.error (.tabNotOpen tab))) ∧
    (∀ p, b.pages.find? (·.closed) = some p →
      b.Stalls T (.tabNotOpen (some (nameOf p.handle)))) ∧
    ((∀ p ∈ b.pages, p.closed = false) → b.Goes T) ∧
    (∀ now : T, host.remove b.stale now b = .done (b.removePages b.stale) [] (.ok ())) ∧
    (b.removePages b.stale).pages = (b.pages.filter fun p => !p.closed) ∧
    (b.removePages b.stale).Goes T := by
  have hregistered := hb.registered
  have hmended := hregistered.removePages_stale
  have hleft : undisturbed.sound (b.removePages b.stale) := by
    refine ⟨(removePages_effect b.stale b).registered hregistered, fun p hp => ?_⟩
    rw [hmended] at hp
    simpa using (List.mem_filter.1 hp).2
  refine ⟨fun p hp hopen => ?_, fun tab hnone _ q now hq => ?_, fun p hp => hregistered.stalls hp,
    fun hopen => goes_of_sound ⟨hregistered, hopen⟩, fun now => ?_, hmended, goes_of_sound hleft⟩
  · rw [hregistered.page_handle hp, hopen]
    rfl
  · refine ask_refused hq ?_ now
    cases hpage : b.page? tab with
    | none => rw [page, hpage]
    | some p =>
      have hp : b.page tab = .ok p := by rw [page, hpage]
      obtain ⟨hmem, htab, hopen⟩ := of_page hp
      exact absurd htab (hnone p hmem hopen)
  · show atOnce (closePages b.stale) now b = _
    rw [atOnce, closePages, removalFault?_of_open _ hleft.2]

/-- Two pages, of which the first one was closed from outside. -/
def firstClosed : LiveBrowser :=
  let opened := (serve [.ask (.create "https://a/" true), .ask (.create "https://b/" true)]
    ({} : LiveBrowser).start {}).1
  { opened with
    pages := opened.pages.map fun p => if p.handle = 1 then { p with closed := true } else p }

theorem reached_firstClosed : Reached firstClosed := by
  refine .outside (fun p => ?_) (Reached.serve _ {} (.start true none))
  split <;> rfl

theorem steps_reached_firstClosed :
    Reached firstClosed ∧ firstClosed.Stalls Float (.tabNotOpen (some (.number 1))) := by
  obtain ⟨-, -, hstalls, -⟩ := steps_reached (T := Float) reached_firstClosed
  exact ⟨reached_firstClosed, hstalls _ rfl⟩

/-- The page that is still open is not listed either. -/
theorem not_open_listed :
    ¬ ∀ b : LiveBrowser, Reached b → ∃ ts, b.tabs none none = .ok ts ∧
      ts.map (·.id) = (b.pages.filter fun p => !p.closed).map fun p => nameOf p.handle := by
  intro hall
  obtain ⟨ts, hts, -⟩ := hall firstClosed reached_firstClosed
  have hfails : firstClosed.tabs none none = .error (.tabNotOpen (some (.number 1))) := rfl
  rw [hfails] at hts
  cases hts

end LiveBrowser

end BrowserFlow
