import BrowserFlow.Browser.Live
import BrowserFlow.Proofs.OpenTabs

/-!
What calls do to the register of the live browser. Most leave it as it is; of the others one opens a
page, under a handle that was not used before, and two take pages away.

* `LiveBrowser.Stays`, `LiveBrowser.Effect`: the same register, and what becomes of it.
* `LiveBrowser.removePages_active`: which page is in front when pages have gone.
* `LiveCall.run_effect`: every call has such an effect.
-/
namespace BrowserFlow
set_option autoImplicit false

open Host (Question)

namespace LiveBrowser

variable {b b' b'' : LiveBrowser}

/-- A handle as it is given out. -/
def nameOf (n : Nat) : Handle := .number n

theorem nameOf_inj {m n : Nat} : nameOf m = nameOf n ↔ m = n := by
  rw [nameOf, nameOf, Handle.number.injEq, Int.natCast_inj]

def handles (b : LiveBrowser) : List Nat := b.pages.map (·.handle)

/-- The handles of the registered pages, and whether they were closed from outside. -/
def marks (b : LiveBrowser) : List (Nat × Bool) := b.pages.map fun p => (p.handle, p.closed)

theorem map_fst_marks (b : LiveBrowser) : b.marks.map Prod.fst = b.handles := by
  unfold marks handles
  rw [List.map_map]
  rfl

/-- A page is in front, as long as there are pages. -/
structure Focused (b : LiveBrowser) : Prop where
  idle : b.active = none ↔ b.handles = []
  front : ∀ n, b.active = some n → n ∈ b.handles

theorem Focused.of_front {n : Nat} (hactive : b.active = some n) (hn : n ∈ b.handles) :
    b.Focused := by
  constructor
  · rw [hactive]
    exact iff_of_false nofun (List.ne_nil_of_mem hn)
  · intro m hm
    rw [hactive] at hm
    cases hm
    exact hn

/-! ## Calls that leave the register as it is -/

/-- The same pages are registered; the one in front may be another one of them. -/
structure Stays (b b' : LiveBrowser) : Prop where
  marks : b'.marks = b.marks
  next : b'.next = b.next
  active : b'.active = b.active ∨ ∃ n ∈ b.handles, b'.active = some n

namespace Stays

theorem refl (b : LiveBrowser) : b.Stays b := ⟨rfl, rfl, .inl rfl⟩

theorem handles (hb : b.Stays b') : b'.handles = b.handles := by
  rw [← map_fst_marks, hb.marks, map_fst_marks]

theorem trans (h₁ : b.Stays b') (h₂ : b'.Stays b'') : b.Stays b'' := by
  refine ⟨h₂.marks.trans h₁.marks, h₂.next.trans h₁.next, ?_⟩
  obtain hsame | ⟨n, hn, hfront⟩ := h₂.active
  · rw [hsame]
    exact h₁.active
  · rw [h₁.handles] at hn
    exact .inr ⟨n, hn, hfront⟩

theorem focused (hb : b.Stays b') (hfocus : b.Focused) : b'.Focused := by
  obtain hsame | ⟨n, hn, hfront⟩ := hb.active
  · constructor
    · rw [hsame, hb.handles]
      exact hfocus.idle
    · rw [hsame, hb.handles]
      exact hfocus.front
  · rw [← hb.handles] at hn
    exact .of_front hfront hn

theorem issue (b : LiveBrowser) (c : LiveCommand) : b.Stays (b.issue c) := ⟨rfl, rfl, .inl rfl⟩

theorem start (b : LiveBrowser) : b.Stays b.start := ⟨rfl, rfl, .inl rfl⟩

theorem updatePage (b : LiveBrowser) (n : Nat) {f : LivePage → LivePage}
    (hf : ∀ p, (f p).handle = p.handle ∧ (f p).closed = p.closed) : b.Stays (b.updatePage n f) := by
  refine ⟨?_, rfl, .inl rfl⟩
  unfold LiveBrowser.marks LiveBrowser.updatePage
  rw [List.map_map]
  refine List.map_congr_left fun p _ => ?_
  rw [Function.comp_apply]
  split
  · rw [(hf p).1, (hf p).2]
  · rfl

theorem navigate (b : LiveBrowser) (n : Nat) (url : String) : b.Stays (b.navigate n url) :=
  (updatePage b n (f := fun p => { p with url }) fun _ => ⟨rfl, rfl⟩).trans (issue _ _)

theorem activate {n : Nat} (hn : n ∈ b.handles) : b.Stays (b.activate n) :=
  ⟨rfl, rfl, .inr ⟨n, hn, rfl⟩⟩

theorem front {n : Nat} (hb : b.Stays b') (hn : n ∈ b.handles) {c : Prop} [Decidable c] :
    b.Stays (if c then b'.activate n else b') := by
  split
  · rw [← hb.handles] at hn
    exact hb.trans (.activate hn)
  · exact hb

end Stays

theorem of_page {tab : TabRef} {p : LivePage} (hp : b.page tab = .ok p) :
    p ∈ b.pages ∧ tab = some (nameOf p.handle) ∧ p.closed = false := by
  unfold page at hp
  split at hp
  · rename_i q hq
    cases hp
    unfold page? at hq
    split at hq
    · rename_i n
      have hfound := List.find?_some hq
      rw [Bool.and_eq_true, beq_iff_eq, Bool.not_eq_true'] at hfound
      rw [← hfound.1]
      exact ⟨List.mem_of_find?_eq_some hq, rfl, hfound.2⟩
    · cases hq
  · cases hp

theorem of_page_mem {tab : TabRef} {p : LivePage} (hp : b.page tab = .ok p) :
    p.handle ∈ b.handles :=
  List.mem_map.2 ⟨p, (of_page hp).1, rfl⟩

theorem changePage_stays (tab : TabRef) (c : TabChange) (b : LiveBrowser) :
    b.Stays (changePage tab c b).1 := by
  unfold changePage
  split
  · exact .refl b
  · rename_i p hp
    have hmem := of_page_mem hp
    cases c.url with
    | none => exact (Stays.refl b).front hmem
    | some url => exact (Stays.navigate b p.handle url).front hmem

theorem withPage_stays {α : Type} (tab : TabRef) (b : LiveBrowser)
    {f : LivePage → LiveBrowser × α} (hf : ∀ p, b.Stays (f p).1) :
    b.Stays (b.withPage tab f).1 := by
  unfold withPage
  split
  · exact hf _
  · exact .refl b

theorem evaluate_stays (tab : TabRef) (action : PageAction) (params : Mapping) (b : LiveBrowser) :
    b.Stays (evaluate tab action params b).1 := by
  unfold evaluate
  split
  · exact .refl b
  · rename_i p hp
    let answered (p : LivePage) : LivePage := { p with answers := p.answers.drop 1 }
    have hasked : b.Stays ((b.updatePage p.handle answered).issue
        (.evaluate p.handle action (sentParams action params))) :=
      (Stays.updatePage b p.handle (f := answered) fun _ => ⟨rfl, rfl⟩).trans (.issue _ _)
    dsimp only
    split <;> exact hasked

/-! ## Calls that change the register -/

/-- What a call does to the register: of the pages that were there it spares some, and it opens at
most one. -/
structure Effect (b b' : LiveBrowser) (spares : Handle → Bool) (opened : List Nat) : Prop where
  marks : b'.marks = b.marks.filter (fun m => spares (nameOf m.1)) ++ opened.map fun n => (n, false)
  next : b'.next = b.next + opened.length
  counted : opened = [] ∨ opened = [b.next]
  focused : b.Focused → b'.Focused

theorem Stays.effect (hb : b.Stays b') : b.Effect b' (fun _ => true) [] where
  marks := by
    rw [List.filter_true, List.map_nil, List.append_nil]
    exact hb.marks
  next := hb.next
  counted := .inl rfl
  focused := hb.focused

def withBlank (b : LiveBrowser) : LiveBrowser :=
  { b with next := b.next + 1, pages := b.pages ++ [{ handle := b.next }] }

/-- The browser with one more page, which is at its address but not in front. -/
def withPageAt (url : String) (b : LiveBrowser) : LiveBrowser :=
  if url = "" ∨ url = "about:blank" then b.withBlank else b.withBlank.navigate b.next url

theorem withPageAt_stays (url : String) (b : LiveBrowser) :
    b.withBlank.Stays (b.withPageAt url) := by
  unfold withPageAt
  split
  · exact .refl _
  · exact .navigate _ _ _

theorem withPageAt_active (url : String) (b : LiveBrowser) :
    (b.withPageAt url).active = b.active := by
  unfold withPageAt
  split <;> rfl

theorem withPageAt_marks (url : String) (b : LiveBrowser) :
    (b.withPageAt url).marks = b.marks ++ [(b.next, false)] :=
  (withPageAt_stays url b).marks.trans List.map_append

theorem withPageAt_handles (url : String) (b : LiveBrowser) :
    (b.withPageAt url).handles = b.handles ++ [b.next] := by
  rw [← map_fst_marks, withPageAt_marks, List.map_append, map_fst_marks]
  rfl

theorem openPage_started (hstarted : b.started = true) (url : String) (front : Bool) :
    openPage url front b =
      (if front || b.active.isNone then (b.withPageAt url).activate b.next else b.withPageAt url,
        .ok (nameOf b.next)) := by
  have hopen : openPage url front b =
      (if front || (b.withPageAt url).active.isNone then (b.withPageAt url).activate b.next
        else b.withPageAt url, .ok (nameOf b.next)) := by
    unfold openPage
    rw [if_neg (by simp [hstarted])]
    rfl
  rw [hopen, withPageAt_active]

theorem openPage_unstarted (hstarted : ¬ b.started = true) (url : String) (front : Bool) :
    openPage url front b = (b, .error .browserNotStarted) := by
  unfold openPage
  rw [if_pos (by simpa using hstarted)]

theorem openPage_active (hstarted : b.started = true) (url : String) (front : Bool) :
    (openPage url front b).1.active =
      if front || b.active.isNone then some b.next else b.active := by
  rw [openPage_started hstarted]
  dsimp only
  split
  · rfl
  · exact withPageAt_active url b

theorem openPage_effect (hstarted : b.started = true) (url : String) (front : Bool) :
    b.Effect (openPage url front b).1 (fun _ => true) [b.next] := by
  have hnew : b.next ∈ (b.withPageAt url).handles := by
    rw [withPageAt_handles]
    exact List.mem_concat_self
  rw [openPage_started hstarted]
  have hstays := (Stays.refl (b.withPageAt url)).front hnew (c := (front || b.active.isNone) = true)
  exact {
    marks := by
      rw [List.filter_true]
      exact hstays.marks.trans (withPageAt_marks url b)
    next := hstays.next.trans (withPageAt_stays url b).next
    counted := .inr rfl
    focused := by
      intro hfocus
      -- whether it was asked for or not, the first page comes to the front
      split
      · exact .of_front rfl hnew
      · rename_i hbehind
        obtain ⟨n, hn⟩ : ∃ n, b.active = some n := by
          rw [Bool.or_eq_true, not_or, Option.isNone_iff_eq_none] at hbehind
          exact Option.ne_none_iff_exists'.1 hbehind.2
        have hold : n ∈ (b.withPageAt url).handles := by
          rw [withPageAt_handles]
          exact List.mem_append_left _ (hfocus.front n hn)
        exact .of_front ((withPageAt_active url b).trans hn) hold }

/-! ### Pages that are removed -/

theorem removePage_pages (b : LiveBrowser) (tab : TabRef) :
    (b.removePage tab).pages = b.pages.filter (fun p => some (nameOf p.handle) ≠ tab) ∧
      (b.removePage tab).next = b.next ∧ (b.removePage tab).active = b.active := by
  have hall (htab : ∀ p ∈ b.pages, some (nameOf p.handle) ≠ tab) :
      b.pages.filter (fun p => some (nameOf p.handle) ≠ tab) = b.pages :=
    List.filter_eq_self.2 fun p hp => decide_eq_true (htab p hp)
  unfold removePage
  split
  · rename_i n
    split
    · rename_i p hp
      have hn := List.find?_some hp
      rw [beq_iff_eq] at hn
      have hleft : (b.pages.filter fun q => q.handle ≠ p.handle) =
          b.pages.filter fun q => some (nameOf q.handle) ≠ some (.number n) := by
        rw [← hn]
        refine List.filter_congr fun q _ => decide_eq_decide.2 (not_congr ?_)
        exact (nameOf_inj.symm.trans (Option.some_inj).symm)
      rw [← hleft]
      dsimp only
      split <;> exact ⟨rfl, rfl, rfl⟩
    · rename_i hnone
      refine ⟨(hall fun p hp heq => ?_).symm, rfl, rfl⟩
      cases heq
      exact List.find?_eq_none.1 hnone p hp (beq_self_eq_true _)
  · rename_i hname
    refine ⟨(hall fun p _ heq => ?_).symm, rfl, rfl⟩
    exact hname _ heq.symm

theorem foldl_removePage (xs : List TabRef) (b : LiveBrowser) :
    (xs.foldl removePage b).pages = b.pages.filter (fun p => some (nameOf p.handle) ∉ xs) ∧
      (xs.foldl removePage b).next = b.next ∧ (xs.foldl removePage b).active = b.active := by
  induction xs generalizing b with
  | nil => simp
  | cons x xs ih =>
    obtain ⟨hpages, hnext, hactive⟩ := removePage_pages b x
    obtain ⟨hpages', hnext', hactive'⟩ := ih (b.removePage x)
    rw [List.foldl_cons, hpages', hnext', hactive', hpages, hnext, hactive, List.filter_filter]
    refine ⟨List.filter_congr fun p _ => ?_, rfl, rfl⟩
    simp [Bool.and_comm]

theorem refocus_eq (b : LiveBrowser) :
    b.refocus = if ∃ n ∈ b.handles, b.active = some n then b else
      match b.pages.getLast? with
      | some p => b.activate p.handle
      | none => { b with active := none } := by
  have hthere : (b.active.any fun n => b.pages.any fun p => p.handle == n) = true ↔
      ∃ n ∈ b.handles, b.active = some n := by
    cases b.active with
    | none => simp
    | some n => simp [handles]
  unfold refocus
  by_cases h : ∃ n ∈ b.handles, b.active = some n
  · exact (if_pos (hthere.2 h)).trans (if_pos h).symm
  · exact (if_neg (mt hthere.1 h)).trans (if_neg h).symm

theorem refocus_pages (b : LiveBrowser) :
    b.refocus.pages = b.pages ∧ b.refocus.next = b.next := by
  rw [refocus_eq]
  split
  · exact ⟨rfl, rfl⟩
  · split <;> exact ⟨rfl, rfl⟩

theorem refocus_active (b : LiveBrowser) :
    b.refocus.active =
      if ∃ n ∈ b.handles, b.active = some n then b.active else b.handles.getLast? := by
  rw [refocus_eq]
  split
  · rfl
  · rw [handles, List.getLast?_map]
    cases b.pages.getLast? <;> rfl

theorem refocus_focused (b : LiveBrowser) : b.refocus.Focused := by
  have hsame : b.refocus.handles = b.handles := congrArg (List.map _) (refocus_pages b).1
  -- both ways to come to a page in front end inside the register
  by_cases h : ∃ n ∈ b.handles, b.active = some n
  · obtain ⟨n, hn, hfront⟩ := h
    refine .of_front (n := n) ?_ (hsame ▸ hn)
    rw [refocus_active, if_pos ⟨n, hn, hfront⟩, hfront]
  · have hactive : b.refocus.active = b.handles.getLast? := by
      rw [refocus_active, if_neg h]
    constructor
    · rw [hactive, hsame, List.getLast?_eq_none_iff]
    · intro n hn
      rw [hsame]
      exact List.mem_of_getLast? (hactive ▸ hn)

theorem removePages_pages (xs : List TabRef) (b : LiveBrowser) :
    (b.removePages xs).pages = b.pages.filter (fun p => some (nameOf p.handle) ∉ xs) ∧
      (b.removePages xs).next = b.next := by
  obtain ⟨hpages, hnext⟩ := refocus_pages (xs.foldl removePage b)
  obtain ⟨hleft, hcount, -⟩ := foldl_removePage xs b
  exact ⟨hpages.trans hleft, hnext.trans hcount⟩

/-- A page that is open comes to the front without fault. -/
theorem removalFault?_of_open (xs : List TabRef) {b : LiveBrowser}
    (hopen : ∀ p ∈ (b.removePages xs).pages, p.closed = false) : b.removalFault? xs = none := by
  rw [removePages, (refocus_pages _).1] at hopen
  unfold removalFault? refocusFault?
  split
  · rfl
  · rw [if_neg]
    intro hclosed
    obtain ⟨p, hlast, hp⟩ := (Option.any_eq_true ..).1 hclosed
    rw [hopen p (List.mem_of_getLast? hlast)] at hp
    cases hp

theorem removePages_handles (xs : List TabRef) (b : LiveBrowser) :
    (b.removePages xs).handles = b.handles.filter fun n => some (nameOf n) ∉ xs := by
  unfold handles
  rw [(removePages_pages xs b).1, List.filter_map]
  rfl

theorem removePages_active (xs : List TabRef) {n : Nat} (hfocus : b.Focused)
    (hn : b.active = some n) :
    (b.removePages xs).active =
      if some (nameOf n) ∈ xs then (b.removePages xs).handles.getLast? else some n := by
  obtain ⟨hpages, -, hactive⟩ := foldl_removePage xs b
  have hhandles : (xs.foldl removePage b).handles = (b.removePages xs).handles :=
    congrArg (List.map _) (refocus_pages (xs.foldl removePage b)).1.symm
  -- what was in front before the removal is looked for among what is left
  have hthere : (∃ m ∈ (b.removePages xs).handles, b.active = some m) ↔ some (nameOf n) ∉ xs := by
    rw [hn, removePages_handles]
    constructor
    · rintro ⟨m, hm, ⟨⟩⟩
      exact of_decide_eq_true (List.mem_filter.1 hm).2
    · intro hleft
      exact ⟨n, List.mem_filter.2 ⟨hfocus.front n hn, decide_eq_true hleft⟩, rfl⟩
  unfold removePages
  rw [refocus_active, hactive, hhandles]
  by_cases hgone : some (nameOf n) ∈ xs
  · rw [if_pos hgone, if_neg (mt hthere.1 (not_not_intro hgone))]
    rfl
  · rw [if_neg hgone, if_pos (hthere.2 hgone), hn]

theorem removePages_effect (xs : List TabRef) (b : LiveBrowser) :
    b.Effect (b.removePages xs) (fun h => some h ∉ xs) [] where
  marks := by
    rw [List.map_nil, List.append_nil]
    unfold marks
    rw [(removePages_pages xs b).1, List.filter_map]
    rfl
  next := (removePages_pages xs b).2
  counted := .inl rfl
  focused _ := refocus_focused _

theorem close_effect (b : LiveBrowser) : b.Effect b.close (fun _ => false) [] where
  marks := by
    rw [List.filter_false]
    rfl
  next := by
    unfold close
    dsimp only
    split <;> rfl
  counted := .inl rfl
  focused _ := ⟨iff_of_true rfl rfl, nofun⟩

/-! ## Calls -/

/-- The browser after a call that is answered at once, and the answer unless it is a fault. -/
def settle {α : Type} (f : Call LiveBrowser Unit α) (b : LiveBrowser) : LiveBrowser × Option α :=
  match f () b with
  | .done b _ r => (b, r.toOption)
  | .sleep b _ _ _ => (b, none)

end LiveBrowser

/-- What a live browser can be asked for. -/
inductive LiveCall : Type 1 where
  | start
  | close
  | ask {α : Type} (q : Question α)

namespace LiveCall
open LiveBrowser

def run : LiveCall → LiveBrowser → LiveBrowser
  | start, b => b.start
  | close, b => b.close
  | ask q, b => (settle (q.ask host) b).1

/-- The handle that a call gives out, if it gives one out. -/
def gives : LiveCall → LiveBrowser → List Handle
  | ask (.create url front), b => (settle (host.create url front) b).2.toList
  | _, _ => []

/-- Whether a call leaves a page alone. -/
def spares : LiveCall → Handle → Bool
  | start, _ => true
  | close, _ => false
  | ask q, h => some h ∉ q.closes

theorem gives_create {b : LiveBrowser} (hstarted : b.started = true) (url : String) (front : Bool) :
    (ask (.create url front)).gives b = [nameOf b.next] := by
  have hsettle : settle (host.create url front) b =
      ((openPage url front b).1, (openPage url front b).2.toOption) := rfl
  rw [gives, hsettle, openPage_started hstarted]
  rfl

theorem run_effect (c : LiveCall) (b : LiveBrowser) :
    ∃ opened, c.gives b = opened.map nameOf ∧ b.Effect (c.run b) c.spares opened := by
  have stays {c : LiveCall} (hgives : c.gives b = []) (hspares : c.spares = fun _ => true)
      (hc : b.Stays (c.run b)) :
      ∃ opened, c.gives b = opened.map nameOf ∧ b.Effect (c.run b) c.spares opened := by
    rw [hspares]
    exact ⟨[], hgives, hc.effect⟩
  cases c with
  | start => exact stays rfl rfl (.start b)
  | close => exact ⟨[], rfl, close_effect b⟩
  | ask q =>
    cases q with
    | create url front =>
      by_cases hstarted : b.started = true
      · exact ⟨[b.next], gives_create hstarted url front, openPage_effect hstarted url front⟩
      · refine stays ?_ rfl ?_
        · show (openPage url front b).2.toOption.toList = []
          rw [openPage_unstarted hstarted]
          rfl
        · show b.Stays (openPage url front b).1
          rw [openPage_unstarted hstarted]
          exact .refl b
    | update tab change => exact stays rfl rfl (changePage_stays tab change b)
    | get tab => exact stays rfl rfl (.refl b)
    | reload tab =>
      let asked (p : LivePage) := (b.issue (.reload p.handle), ())
      exact stays rfl rfl (withPage_stays tab b (f := asked) fun _ => .issue b _)
    | remove xs => exact ⟨[], rfl, removePages_effect xs b⟩
    | query window active => exact stays rfl rfl (.refl b)
    | capture tab =>
      let asked (p : LivePage) := (b.issue (.screenshot p.handle), picture p)
      exact stays rfl rfl (withPage_stays tab b (f := asked) fun _ => .issue b _)
    | awaitLoad tab =>
      let asked (p : LivePage) := (b.issue (.awaitLoad p.handle), ())
      exact stays rfl rfl (withPage_stays tab b (f := asked) fun _ => .issue b _)
    | perform tab action params => exact stays rfl rfl (evaluate_stays tab action params b)

end LiveCall

end BrowserFlow
