import BrowserFlow.Browser.Simulated
import BrowserFlow.Proofs.OpenTabs

/-!
The tabs of the simulated browser. Its handles are counted up, so none is used twice, and nothing
but a call to remove tabs takes one away: the simulated browser keeps to the view of its own tabs.
-/
namespace BrowserFlow.SimBrowser
set_option autoImplicit false

/-- Handles are distinct and older than the next one, and no tab is hidden or without a window. -/
structure Sound (b : SimBrowser) : Prop where
  distinct : (b.tabs.map (·.id)).Nodup
  fresh : ∀ t ∈ b.tabs, ∀ n, t.id = .number n → n < b.nextId
  windowed : ∀ t ∈ b.tabs, t.window.isSome
  shown : b.hidesTabs = false

def view : TabView SimBrowser where
  sound := Sound
  tabs := SimBrowser.tabs

variable {b b' : SimBrowser} {α : Type} {along : SimBrowser → Prop}
  {answers : SimBrowser → α → Prop}

/-! ## Changes that leave every tab in its window -/

structure SameTabs (b b' : SimBrowser) : Prop where
  tabs : b'.tabs.map (fun t => (t.id, t.window)) = b.tabs.map fun t => (t.id, t.window)
  nextId : b'.nextId = b.nextId
  hidesTabs : b'.hidesTabs = b.hidesTabs

theorem SameTabs.refl (b : SimBrowser) : SameTabs b b := ⟨rfl, rfl, rfl⟩

theorem SameTabs.ofMap {f : Tab → Tab} (hf : ∀ t, (f t).id = t.id ∧ (f t).window = t.window) :
    SameTabs b { b with tabs := b.tabs.map f } := by
  refine ⟨?_, rfl, rfl⟩
  rw [List.map_map]
  refine List.map_congr_left fun t _ => ?_
  rw [Function.comp_apply, (hf t).1, (hf t).2]

theorem SameTabs.trans {b'' : SimBrowser} (h : SameTabs b b') (h' : SameTabs b' b'') :
    SameTabs b b'' :=
  ⟨h'.tabs.trans h.tabs, h'.nextId.trans h.nextId, h'.hidesTabs.trans h.hidesTabs⟩

theorem SameTabs.updateTab (b : SimBrowser) (id : Handle) {f : Tab → Tab}
    (hf : ∀ t, (f t).id = t.id ∧ (f t).window = t.window) : SameTabs b (b.updateTab id f) := by
  refine .ofMap fun t => ?_
  split
  · exact hf t
  · exact ⟨rfl, rfl⟩

theorem SameTabs.activate (b : SimBrowser) (t : Tab) : SameTabs b (b.activate t) := by
  refine .ofMap fun u => ?_
  split
  · exact ⟨rfl, rfl⟩
  · split <;> exact ⟨rfl, rfl⟩

theorem SameTabs.front (b : SimBrowser) (t : Tab) {c : Prop} [Decidable c] :
    SameTabs b (if c then b.activate t else b) := by
  split
  · exact .activate b t
  · exact .refl b

theorem SameTabs.exists_tab (h : SameTabs b b') {t : Tab} (ht : t ∈ b'.tabs) :
    ∃ u ∈ b.tabs, u.id = t.id ∧ u.window = t.window := by
  have hmem : (t.id, t.window) ∈ b.tabs.map fun t => (t.id, t.window) := by
    rw [← h.tabs]
    exact List.mem_map.2 ⟨t, ht, rfl⟩
  obtain ⟨u, hu, he⟩ := List.mem_map.1 hmem
  exact ⟨u, hu, congrArg Prod.fst he, congrArg Prod.snd he⟩

theorem SameTabs.symm (h : SameTabs b b') : SameTabs b' b :=
  ⟨h.tabs.symm, h.nextId.symm, h.hidesTabs.symm⟩

theorem SameTabs.isOpen (h : SameTabs b b') {x : Handle} : view.IsOpen b' x ↔ view.IsOpen b x := by
  constructor
  · rintro ⟨t, ht, rfl⟩
    obtain ⟨u, hu, hid, -⟩ := h.exists_tab ht
    exact ⟨u, hu, hid⟩
  · rintro ⟨t, ht, rfl⟩
    obtain ⟨u, hu, hid, -⟩ := h.symm.exists_tab ht
    exact ⟨u, hu, hid⟩

theorem SameTabs.sound (h : SameTabs b b') (hb : Sound b) : Sound b' where
  distinct := by
    have hids := congrArg (List.map Prod.fst) h.tabs
    simp only [List.map_map] at hids
    have hdistinct := hb.distinct
    rwa [← show b'.tabs.map (·.id) = b.tabs.map (·.id) from hids] at hdistinct
  fresh t ht n hn := by
    obtain ⟨u, hu, hid, -⟩ := h.exists_tab ht
    rw [h.nextId]
    exact hb.fresh u hu n (hid.trans hn)
  windowed t ht := by
    obtain ⟨u, hu, -, hwindow⟩ := h.exists_tab ht
    rw [← hwindow]
    exact hb.windowed u hu
  shown := h.hidesTabs.trans hb.shown

theorem SameTabs.spares (h : SameTabs b b') (hb : Sound b) (xs : List TabRef) :
    view.Spares xs b b' :=
  ⟨h.sound hb, fun _ hx _ => h.isOpen.2 hx⟩

/-! ## Answers -/

theorem answer_leads {name : String} {result : SimBrowser → SimBrowser × Except Fault α}
    (hb : along b) (hafter : along (result b).1)
    (hresult : ∀ a, (result b).2 = .ok a → answers (result b).1 a) :
    (b.answer name result).Leads along answers := by
  unfold answer
  split
  · exact .failed hb
  · rcases hr : result b with ⟨b', _ | a⟩
    · rw [hr] at hafter
      exact .failed hafter
    · rw [hr] at hafter hresult
      exact .done hafter (hresult a rfl)

theorem withTab_answer_leads {name : String} {tab : TabRef} {f : SimBrowser → Tab → SimBrowser × α}
    (hb : along b)
    (hafter : ∀ t, b.tab? tab = some t → along (f b t).1 ∧ answers (f b t).1 (f b t).2) :
    (b.answer name (withTab tab f)).Leads along answers := by
  refine answer_leads hb ?_ ?_
  · unfold withTab
    split
    · rename_i t ht
      exact (hafter t ht).1
    · exact hb
  · intro a ha
    unfold withTab at ha ⊢
    split at ha
    · rename_i t ht
      cases ha
      exact (hafter t ht).2
    · cases ha

theorem of_tab? {tab : TabRef} {t : Tab} (ht : b.tab? tab = some t) :
    t ∈ b.tabs ∧ tab = some t.id := by
  cases tab with
  | none => cases ht
  | some id =>
    have hfound : b.tabs.find? (·.id == id) = some t := ht
    have hid := List.find?_some hfound
    exact ⟨List.mem_of_find?_eq_some hfound, congrArg some (eq_of_beq hid).symm⟩

/-! ## Tabs that open and close -/

theorem opened_sound (hb : Sound b) {t : Tab} (hid : t.id = .number b.nextId)
    (hwindow : t.window.isSome) :
    Sound { b with tabs := b.tabs ++ [t], nextId := b.nextId + 1 } where
  distinct := by
    have hnew : t.id ∉ b.tabs.map (·.id) := by
      intro hmem
      obtain ⟨u, hu, hsame⟩ := List.mem_map.1 hmem
      have hlt := hb.fresh u hu b.nextId (hsame.trans hid)
      omega
    rw [List.map_append, List.map_singleton]
    exact List.nodup_append.2 ⟨hb.distinct, List.nodup_singleton _, fun x hx y hy => by
      rintro rfl
      exact hnew (List.mem_singleton.1 hy ▸ hx)⟩
  fresh u hu n hn := by
    show n < b.nextId + 1
    obtain hu | hu := List.mem_append.1 hu
    · have hlt := hb.fresh u hu n hn
      omega
    · obtain rfl := List.mem_singleton.1 hu
      rw [hid] at hn
      cases hn
      omega
  windowed u hu := by
    obtain hu | hu := List.mem_append.1 hu
    · exact hb.windowed u hu
    · obtain rfl := List.mem_singleton.1 hu
      exact hwindow
  shown := hb.shown

theorem create_leads (url : String) (front : Bool) (now : Float) (hb : Sound b) :
    (create url front now b).Leads (view.Spares [] b)
      (view.Tells b (.create url front : Host.Question Handle)) := by
  have hrecord : SameTabs b (b.record now "create" [.text url, .bool front]) := ⟨rfl, rfl, rfl⟩
  generalize hb₁ : b.record now "create" [.text url, .bool front] = b₁ at hrecord
  let t : Tab :=
    { id := .number b₁.nextId, url, window := some (.number 1), index := b₁.tabs.length }
  let b₂ : SimBrowser := { b₁ with tabs := b₁.tabs ++ [t], nextId := b₁.nextId + 1 }
  have hfront : SameTabs b₂ (if front then b₂.activate t else b₂) := .front b₂ t
  have hsound : Sound b₂ := opened_sound (hrecord.sound hb) rfl rfl
  have hopens : view.Spares [] b (if front then b₂.activate t else b₂) := by
    refine ⟨hfront.sound hsound, fun x hx _ => hfront.isOpen.2 ?_⟩
    obtain ⟨u, hu, hid⟩ := hrecord.isOpen.2 hx
    exact ⟨u, List.mem_append_left _ hu, hid⟩
  unfold create
  rw [hb₁]
  refine answer_leads (hrecord.spares hb []) hopens ?_
  rintro _ ⟨⟩
  refine ⟨fun hold => ?_,
    hfront.isOpen.2 ⟨t, List.mem_append_right _ (List.mem_singleton.2 rfl), rfl⟩⟩
  obtain ⟨u, hu, hid⟩ := hrecord.isOpen.2 hold
  have hlt := (hrecord.sound hb).fresh u hu _ hid
  omega

/-- Closing tabs and then bringing the last one to the front. -/
theorem close_sameTabs (b : SimBrowser) (xs : List TabRef) :
    SameTabs { b with tabs := b.tabs.filter fun t => !xs.contains (some t.id) } (b.close xs) := by
  unfold close
  dsimp only
  split
  · exact .refl _
  · refine ⟨?_, rfl, rfl⟩
    generalize b.tabs.filter (fun t => !xs.contains (some t.id)) = left
    obtain rfl | ⟨front, t, rfl⟩ := left.eq_nil_or_concat
    · rfl
    · simp

theorem remove_leads (xs : List TabRef) (now : Float) (hb : Sound b) :
    (remove xs now b).Leads (view.Spares xs b)
      (view.Tells b (.remove xs : Host.Question Unit)) := by
  have hrecord : SameTabs b (b.record now "remove" [.list (xs.map refValue)]) := ⟨rfl, rfl, rfl⟩
  generalize hb₁ : b.record now "remove" [.list (xs.map refValue)] = b₁ at hrecord
  have hb₁s : Sound b₁ := hrecord.sound hb
  let b₂ : SimBrowser := { b₁ with tabs := b₁.tabs.filter fun t => !xs.contains (some t.id) }
  have hleft {x : Handle} : view.IsOpen b₂ x ↔ view.IsOpen b₁ x ∧ some x ∉ xs := by
    constructor
    · rintro ⟨t, ht, rfl⟩
      obtain ⟨ht, hxs⟩ := List.mem_filter.1 ht
      exact ⟨⟨t, ht, rfl⟩, by simpa using hxs⟩
    · rintro ⟨⟨t, ht, rfl⟩, hxs⟩
      exact ⟨t, List.mem_filter.2 ⟨ht, by simpa using hxs⟩, rfl⟩
  have hsound : Sound b₂ :=
    { distinct := hb₁s.distinct.sublist (List.filter_sublist.map _)
      fresh := fun t ht => hb₁s.fresh t (List.mem_filter.1 ht).1
      windowed := fun t ht => hb₁s.windowed t (List.mem_filter.1 ht).1
      shown := hb₁s.shown }
  have hclose : SameTabs b₂ (b₁.close xs) := close_sameTabs b₁ xs
  unfold remove
  rw [hb₁]
  refine answer_leads (hrecord.spares hb xs) ⟨hclose.sound hsound, fun x hx hxs => ?_⟩ ?_
  · exact hclose.isOpen.2 (hleft.2 ⟨hrecord.isOpen.2 hx, hxs⟩)
  · rintro _ ⟨⟩ x hxs hopen
    exact (hleft.1 (hclose.isOpen.1 hopen)).2 hxs

/-! ## Pages -/

theorem perform_leads (tab : TabRef) (action : PageAction) (params : Mapping) (now : Float)
    (hb : Sound b) {answers : SimBrowser → Option PageResult → Prop} (hall : ∀ b r, answers b r) :
    (perform tab action params now b).Leads (view.Spares [] b) answers := by
  have done {b' : SimBrowser} (h : SameTabs b b') (rs : List Request)
      (result : Except Fault (Option PageResult)) :
      (Reply.done b' rs result : Reply SimBrowser Float _).Leads (view.Spares [] b) answers := by
    cases result with
    | ok r => exact .done (h.spares hb []) (hall _ _)
    | error f => exact .failed (h.spares hb [])
  have scripted {b' : SimBrowser} (h : SameTabs b b') (t : Float) (e : ScriptEntry) :
      (scripted b' t e action params).Leads (view.Spares [] b) answers := by
    unfold scripted
    dsimp only
    split <;> exact done h _ _
  have hnoted (script : List ScriptEntry) :
      SameTabs b { b with script, pastActions := ⟨now, action, tab, params⟩ :: b.pastActions } :=
    ⟨rfl, rfl, rfl⟩
  unfold perform
  dsimp only
  split
  · exact done (hnoted b.script) _ _
  · split
    · exact done (hnoted b.script) _ _
    · rename_i e script _
      split
      · exact .sleep ((hnoted script).spares hb []) fun t => scripted (hnoted script) t e
      · exact scripted (hnoted script) now e

theorem awaitLoad_leads (tab : TabRef) (now : Float) (hb : Sound b)
    {answers : SimBrowser → Unit → Prop} (hall : ∀ b r, answers b r) :
    (awaitLoad tab now b).Leads (view.Spares [] b) answers := by
  have hsame : view.Spares [] b b := (SameTabs.refl b).spares hb []
  unfold awaitLoad
  split
  · exact .failed hsame
  · split
    · exact .failed hsame
    · split
      · exact .sleep hsame fun _ => .done hsame (hall _ _)
      · exact .done hsame (hall _ _)

/-! ## The host -/

theorem get_leads (tab : TabRef) (now : Float) (hb : Sound b) :
    (get tab now b).Leads (view.Spares [] b) (view.Tells b (.get tab : Host.Question Tab)) := by
  have hsame : view.Spares [] b b := (SameTabs.refl b).spares hb []
  unfold get
  refine withTab_answer_leads hsame fun t ht => ?_
  exact ⟨hsame, of_tab? ht⟩

theorem update_leads (tab : TabRef) (c : TabChange) (now : Float) (hb : Sound b)
    {answers : SimBrowser → Unit → Prop} (hall : ∀ b r, answers b r) :
    (update tab c now b).Leads (view.Spares [] b) answers := by
  have hrecord : SameTabs b (b.record now "update" [refValue tab, changeValue c]) := ⟨rfl, rfl, rfl⟩
  unfold update
  refine withTab_answer_leads (hrecord.spares hb []) fun t _ => ⟨?_, hall _ _⟩
  generalize b.record now "update" [refValue tab, changeValue c] = b₁ at hrecord
  refine SameTabs.spares (hrecord.trans (.trans ?_ (.front _ t))) hb []
  split
  · exact .updateTab b₁ t.id fun _ => ⟨rfl, rfl⟩
  · exact .refl b₁

theorem reload_leads (tab : TabRef) (now : Float) (hb : Sound b)
    {answers : SimBrowser → Unit → Prop} (hall : ∀ b r, answers b r) :
    (reload tab now b).Leads (view.Spares [] b) answers := by
  have hrecord : SameTabs b (b.record now "reload" [refValue tab]) := ⟨rfl, rfl, rfl⟩
  unfold reload
  refine withTab_answer_leads (hrecord.spares hb []) fun _ _ => ?_
  exact ⟨hrecord.spares hb [], hall _ _⟩

theorem capture_leads (tab : TabRef) (now : Float) (hb : Sound b)
    {answers : SimBrowser → Value → Prop} (hall : ∀ b r, answers b r) :
    (capture tab now b).Leads (view.Spares [] b) answers := by
  have hrecord : SameTabs b (b.record now "capture_visible" [refValue tab]) := ⟨rfl, rfl, rfl⟩
  unfold capture
  exact answer_leads (hrecord.spares hb []) (hrecord.spares hb []) fun _ _ => hall _ _

theorem query_leads (window : Option Handle) (active : Option Bool) (now : Float) (hb : Sound b) :
    (query window active now b).Leads (view.Spares [] b)
      (view.Tells b (.query window active : Host.Question (List Tab))) := by
  have hsame : view.Spares [] b b := (SameTabs.refl b).spares hb []
  unfold query
  refine answer_leads hsame ?_ ?_
  · rw [if_neg (by rw [hb.shown]; exact Bool.false_ne_true)]
    exact hsame
  · intro ts hts t
    rw [if_neg (by rw [hb.shown]; exact Bool.false_ne_true)] at hts ⊢
    cases hts
    rw [List.mem_filter]
    refine and_congr_right fun _ => ?_
    cases window <;> cases active <;> simp

/-- The simulated browser closes no tab by itself and tells the truth about its tabs. -/
theorem host_keepsTo : host.KeepsTo view where
  distinct hb := hb.distinct
  windowed hb := hb.windowed
  arrivals _ b hb := by
    have hsame : SameTabs b { b with waiting := [] } := ⟨rfl, rfl, rfl⟩
    exact hsame.spares hb []
  asked q now b hb := by
    have hall {α : Type} (_ : SimBrowser) (_ : α) : True := trivial
    cases q with
    | create url front => exact create_leads url front now hb
    | update tab c => exact update_leads tab c now hb hall
    | get tab => exact get_leads tab now hb
    | reload tab => exact reload_leads tab now hb hall
    | remove xs => exact remove_leads xs now hb
    | query window active => exact query_leads window active now hb
    | capture tab => exact capture_leads tab now hb hall
    | awaitLoad tab => exact awaitLoad_leads tab now hb hall
    | perform tab action params => exact perform_leads tab action params now hb hall

end BrowserFlow.SimBrowser
