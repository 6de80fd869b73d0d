import BrowserFlow.Proofs.LivePages

/-!
The register of the live browser. Handles are counted up, pages stand in the order in which they
were opened, and as long as there are pages one of them is in front.

* `LiveBrowser.Registered`: what holds of the register after any calls.
* `LiveBrowser.Registered.tabs_eq`: what a query comes to.
* `LiveBrowser.Ledger`: the handles that calls gave out, and those that are left.
* `LiveBrowser.serve_books`: register and ledger agree after any calls.
-/
namespace BrowserFlow.LiveBrowser
set_option autoImplicit false

variable {b b' : LiveBrowser}

/-- Pages stand in the order of their handles, and these are older than the next one. -/
structure Registered (b : LiveBrowser) : Prop where
  rising : b.handles.Pairwise (· < ·)
  fresh : ∀ n ∈ b.handles, n < b.next
  focused : b.Focused

section Effects
variable {spares : Handle → Bool} {opened : List Nat}

theorem Effect.handles (hb : b.Effect b' spares opened) :
    b'.handles = b.handles.filter (fun n => spares (nameOf n)) ++ opened := by
  rw [← map_fst_marks, hb.marks, List.map_append, List.map_map, ← map_fst_marks, List.filter_map]
  congr 1
  exact List.map_id _

/-- What is opened is newer than all that is older than the next handle. -/
theorem Effect.rising (hb : b.Effect b' spares opened) {ns : List Nat}
    (hns : ns.Pairwise (· < ·)) (hfresh : ∀ n ∈ ns, n < b.next) :
    (ns ++ opened).Pairwise (· < ·) ∧ ∀ n ∈ ns ++ opened, n < b'.next := by
  rw [hb.next]
  obtain hnone | hone := hb.counted
  · rw [hnone, List.append_nil]
    exact ⟨hns, hfresh⟩
  · rw [hone, List.pairwise_append, List.length_singleton]
    refine ⟨⟨hns, List.pairwise_singleton _ _, fun m hm n hn => ?_⟩, fun n hn => ?_⟩
    · rw [List.mem_singleton.1 hn]
      exact hfresh m hm
    · obtain hold | hnew := List.mem_append.1 hn
      · exact Nat.lt_succ_of_lt (hfresh n hold)
      · rw [List.mem_singleton.1 hnew]
        exact Nat.lt_succ_self _

theorem Effect.registered (hb : b.Effect b' spares opened) (h : b.Registered) : b'.Registered := by
  obtain ⟨hrising, hfresh⟩ := hb.rising (h.rising.filter fun n => spares (nameOf n))
    fun n hn => h.fresh n (List.mem_filter.1 hn).1
  rw [← hb.handles] at hrising hfresh
  exact ⟨hrising, hfresh, hb.focused h.focused⟩

theorem Effect.intact (hb : b.Effect b' spares opened) (hintact : ∀ p ∈ b.pages, p.closed = false) :
    ∀ p ∈ b'.pages, p.closed = false := by
  intro p hp
  have hmark : (p.handle, p.closed) ∈ b'.marks := List.mem_map.2 ⟨p, hp, rfl⟩
  rw [hb.marks, List.mem_append] at hmark
  obtain hold | hnew := hmark
  · obtain ⟨q, hq, heq⟩ := List.mem_map.1 (List.mem_filter.1 hold).1
    exact (congrArg Prod.snd heq).symm.trans (hintact q hq)
  · obtain ⟨n, -, heq⟩ := List.mem_map.1 hnew
    exact (congrArg Prod.snd heq).symm

end Effects

theorem registered_start (headless : Bool) : ({ headless } : LiveBrowser).start.Registered where
  rising := .nil
  fresh := nofun
  focused := ⟨iff_of_true rfl rfl, nofun⟩

/-! ### What a query comes to -/

/-- Whether a query asks for a tab. -/
def asked (window : Option Handle) (active : Option Bool) (t : Tab) : Bool :=
  (window.isNone || t.window == window) && (active.isNone || some t.active == active)

theorem asked_front : asked none (some true) = fun t => t.active := by
  funext t
  simp [asked]

section Queries
variable (hb : b.Registered)
include hb

theorem Registered.filter_handle {p : LivePage} (hp : p ∈ b.pages) :
    b.pages.filter (·.handle == p.handle) = [p] := by
  obtain ⟨before, after, hsplit⟩ := List.append_of_mem hp
  have hdistinct := hb.rising.imp Nat.ne_of_lt
  rw [handles, hsplit, List.map_append, List.map_cons, List.pairwise_append,
    List.pairwise_cons] at hdistinct
  obtain ⟨-, ⟨hafter, -⟩, hbefore⟩ := hdistinct
  have hnone : before.filter (·.handle == p.handle) = [] := by
    refine List.filter_eq_nil_iff.2 fun q hq => ?_
    have hne := hbefore _ (List.mem_map_of_mem hq) p.handle List.mem_cons_self
    rwa [beq_iff_eq]
  have hnone' : after.filter (·.handle == p.handle) = [] := by
    refine List.filter_eq_nil_iff.2 fun q hq => ?_
    have hne := hafter _ (List.mem_map_of_mem hq)
    rwa [beq_iff_eq, eq_comm]
  rw [hsplit, List.filter_append, hnone, List.filter_cons, beq_self_eq_true, if_pos rfl, hnone']
  rfl

theorem Registered.page_handle {p : LivePage} (hp : p ∈ b.pages) :
    b.page (some (nameOf p.handle)) =
      if p.closed then .error (.tabNotOpen (some (nameOf p.handle))) else .ok p := by
  have hfind : b.page? (some (nameOf p.handle)) = if p.closed then none else some p := by
    -- only the page itself has its handle, so that being open is all that is left to ask
    have hboth : b.pages.filter (fun q => (q.handle : Int) == p.handle && !q.closed) =
        [p].filter fun q => !q.closed := by
      rw [← hb.filter_handle hp, List.filter_filter]
      refine List.filter_congr fun q _ => ?_
      rw [Bool.and_comm]
      congr 1
      rw [Bool.eq_iff_iff, beq_iff_eq, beq_iff_eq, Int.natCast_inj]
    show b.pages.find? (fun q => (q.handle : Int) == p.handle && !q.closed) = _
    rw [← List.head?_filter, hboth]
    cases hclosed : p.closed <;> simp [hclosed]
  unfold page
  rw [hfind]
  cases p.closed <;> rfl

theorem Registered.tab_handle {p : LivePage} (hp : p ∈ b.pages) :
    b.tab (some (nameOf p.handle)) =
      if p.closed then .error (.tabNotOpen (some (nameOf p.handle))) else .ok (b.tabOf p) := by
  rw [tab, hb.page_handle hp]
  cases p.closed <;> rfl

/-- A query walks over all registered pages, and the first one that was closed from outside is the
end of it. -/
theorem Registered.tabs_eq (window : Option Handle) (active : Option Bool) :
    b.tabs window active =
      match b.pages.find? (·.closed) with
      | some p => .error (.tabNotOpen (some (nameOf p.handle)))
      | none => .ok ((b.pages.map b.tabOf).filter (asked window active)) := by
  -- by induction on the rest of the walk; each page is found again under its own handle
  have hwalk (ps : List LivePage) (hps : ∀ p ∈ ps, p ∈ b.pages) :
      (ps.mapM fun p => b.tab (some (nameOf p.handle))) =
        match ps.find? (·.closed) with
        | some p => .error (.tabNotOpen (some (nameOf p.handle)))
        | none => .ok (ps.map b.tabOf) := by
    induction ps with
    | nil => rfl
    | cons p ps ih =>
      rw [List.mapM_cons, hb.tab_handle (hps p List.mem_cons_self), List.find?_cons]
      cases hclosed : p.closed with
      | true => rfl
      | false =>
        rw [ih fun q hq => hps q (List.mem_cons_of_mem _ hq)]
        cases ps.find? (·.closed) <;> rfl
  show ((b.pages.mapM fun p => b.tab (some (nameOf p.handle))) >>= _) = _
  rw [hwalk b.pages fun _ hp => hp]
  cases b.pages.find? (·.closed) <;> rfl

theorem Registered.tabs_intact (hintact : ∀ p ∈ b.pages, p.closed = false)
    (window : Option Handle) (active : Option Bool) :
    b.tabs window active = .ok ((b.pages.map b.tabOf).filter (asked window active)) := by
  have hnone : b.pages.find? (·.closed) = none := by
    refine List.find?_eq_none.2 fun p hp => ?_
    rw [hintact p hp]
    exact Bool.false_ne_true
  rw [hb.tabs_eq, hnone]

theorem Registered.index_getElem {i : Nat} (hi : i < b.pages.length) :
    (b.tabOf b.pages[i]).index = i := by
  have hplace : b.pages.findIdx (fun q => q.handle == b.pages[i].handle) = i := by
    rw [List.findIdx_eq hi]
    refine ⟨beq_self_eq_true _, fun j hji => ?_⟩
    have hlength : b.handles.length = b.pages.length := List.length_map _
    have hlt := List.pairwise_iff_getElem.1 hb.rising j i (by omega) (by omega) hji
    simp only [handles, List.getElem_map] at hlt
    exact beq_false_of_ne (Nat.ne_of_lt hlt)
  rw [tabOf, hplace]

theorem Registered.filter_active (hsome : b.pages ≠ []) :
    ∃ p ∈ b.pages, b.active = some p.handle ∧
      (b.pages.map b.tabOf).filter (·.active) = [b.tabOf p] := by
  obtain ⟨n, hn⟩ : ∃ n, b.active = some n := by
    refine Option.ne_none_iff_exists'.1 fun hnone => hsome ?_
    exact List.map_eq_nil_iff.1 (hb.focused.idle.1 hnone)
  obtain ⟨p, hp, rfl⟩ := List.mem_map.1 (hb.focused.front n hn)
  refine ⟨p, hp, hn, ?_⟩
  rw [List.filter_map]
  have hfront : ((·.active) ∘ b.tabOf) = fun q : LivePage => q.handle == p.handle := by
    funext q
    rw [Function.comp_apply, tabOf, hn]
    simp [eq_comm]
  rw [hfront, hb.filter_handle hp]
  rfl

theorem Registered.front_eq :
    ((b.pages.map b.tabOf).filter (·.active)).head?.map (·.id) = b.active.map nameOf := by
  by_cases hnone : b.pages = []
  · rw [hb.focused.idle.2 (List.map_eq_nil_iff.2 hnone), hnone]
    rfl
  · obtain ⟨p, -, hactive, hfront⟩ := hb.filter_active hnone
    rw [hfront, hactive]
    rfl

end Queries

/-! ## Calls in a row -/

/-- The handles that were given out, and those of them whose pages were not taken away since. -/
structure Ledger where
  given : List Handle := []
  left : List Handle := []

def Ledger.note (l : Ledger) (c : LiveCall) (b : LiveBrowser) : Ledger where
  given := l.given ++ c.gives b
  left := l.left.filter c.spares ++ c.gives b

/-- Makes calls one after the other, and keeps a ledger of them. -/
def serve : List LiveCall → LiveBrowser → Ledger → LiveBrowser × Ledger
  | [], b, l => (b, l)
  | c :: cs, b, l => serve cs (c.run b) (l.note c b)

/-- No page was closed from outside, and the register and the ledger agree. -/
structure Tallies (b : LiveBrowser) (l : Ledger) : Prop where
  registered : b.Registered
  intact : ∀ p ∈ b.pages, p.closed = false
  given : ∃ ns : List Nat, l.given = ns.map nameOf ∧ ns.Pairwise (· < ·) ∧ ∀ n ∈ ns, n < b.next
  left : l.left = b.handles.map nameOf
  kept : l.left.Sublist l.given

theorem Tallies.note {l : Ledger} (h : b.Tallies l) (c : LiveCall) :
    (c.run b).Tallies (l.note c b) := by
  obtain ⟨opened, hgives, heffect⟩ := c.run_effect b
  obtain ⟨ns, hns, hrising, hfresh⟩ := h.given
  refine ⟨heffect.registered h.registered, heffect.intact h.intact,
    ⟨ns ++ opened, ?_, heffect.rising hrising hfresh⟩, ?_, ?_⟩
  · rw [Ledger.note, hns, hgives, List.map_append]
  · rw [Ledger.note, h.left, hgives, heffect.handles, List.map_append, List.filter_map]
    rfl
  · exact (List.filter_sublist.trans h.kept).append (List.Sublist.refl _)

theorem serve_tallies (calls : List LiveCall) {l : Ledger} (h : b.Tallies l) :
    (serve calls b l).1.Tallies (serve calls b l).2 := by
  induction calls generalizing b l with
  | nil => exact h
  | cons c cs ih => exact ih (h.note c)

/-- What there is to be seen of the register after calls. -/
structure Books (b : LiveBrowser) (l : Ledger) : Prop where
  idle : b.active = none ↔ b.pages = []
  front : ∀ n, b.active = some n → ∃ p ∈ b.pages, p.handle = n
  rising : ∃ ns : List Nat, l.given = ns.map nameOf ∧ ns.Pairwise (· < ·)
  kept : l.left.Sublist l.given
  once : l.left.Nodup
  listed : ∃ ts : List Tab,
    settle (host.query none none) b = (b, some ts) ∧
    ts.map (·.id) = l.left ∧
    (∀ i (hi : i < ts.length), ts[i].index = i) ∧
    (ts ≠ [] → ∃ t, ts.filter (·.active) = [t])
  filtered : ∀ ts, settle (host.query none none) b = (b, some ts) → ∀ window active,
    settle (host.query window active) b = (b, some (ts.filter (asked window active)))
  opened : b.started = true → ∀ url front,
    (LiveCall.ask (.create url front)).gives b = [nameOf b.next] ∧
    ((LiveCall.ask (.create url front)).run b).active =
      if front || b.active.isNone then some b.next else b.active
  removed : ∀ xs, ((LiveCall.ask (.remove xs)).run b).pages =
    b.pages.filter fun p => some (nameOf p.handle) ∉ xs
  refocused : ∀ xs n, b.active = some n → ((LiveCall.ask (.remove xs)).run b).active =
    if some (nameOf n) ∈ xs then
      ((LiveCall.ask (.remove xs)).run b).pages.getLast?.map (·.handle)
    else some n

theorem Tallies.query {l : Ledger} (h : b.Tallies l) (window : Option Handle)
    (active : Option Bool) :
    settle (host.query window active) b =
      (b, some ((b.pages.map b.tabOf).filter (asked window active))) := by
  show (b, (b.tabs window active).toOption) = _
  rw [h.registered.tabs_intact h.intact]
  rfl

theorem Tallies.books {l : Ledger} (h : b.Tallies l) : b.Books l := by
  have hquery : settle (host.query none none) b = (b, some (b.pages.map b.tabOf)) := by
    rw [h.query]
    simp [asked]
  constructor
  case idle => exact h.registered.focused.idle.trans List.map_eq_nil_iff
  case front => exact fun n hn => List.mem_map.1 (h.registered.focused.front n hn)
  case rising =>
    obtain ⟨ns, hns, hrising, -⟩ := h.given
    exact ⟨ns, hns, hrising⟩
  case kept => exact h.kept
  case once =>
    rw [h.left]
    exact List.Nodup.map (fun _ _ => nameOf_inj.1) (h.registered.rising.imp Nat.ne_of_lt)
  case listed =>
    refine ⟨b.pages.map b.tabOf, hquery, ?_, fun i hi => ?_, fun hsome => ?_⟩
    · rw [h.left, handles, List.map_map, List.map_map]
      rfl
    · rw [List.getElem_map]
      exact h.registered.index_getElem _
    · obtain ⟨p, -, -, hp⟩ := h.registered.filter_active (mt List.map_eq_nil_iff.2 hsome)
      exact ⟨b.tabOf p, hp⟩
  case filtered =>
    intro ts hts window active
    rw [hquery] at hts
    cases hts
    exact h.query window active
  case opened =>
    intro hstarted url front
    exact ⟨LiveCall.gives_create hstarted url front, openPage_active hstarted url front⟩
  case removed => exact fun xs => (removePages_pages xs b).1
  case refocused =>
    intro xs n hn
    rw [← List.getLast?_map]
    exact removePages_active xs h.registered.focused hn

/-- Whatever a live browser is asked for, as long as no page closes from outside. -/
theorem serve_books (headless : Bool) (calls : List LiveCall) :
    (serve calls ({ headless } : LiveBrowser).start {}).1.Books
      (serve calls ({ headless } : LiveBrowser).start {}).2 := by
  have hstart : ({ headless } : LiveBrowser).start.Tallies {} :=
    ⟨registered_start headless, nofun, ⟨[], rfl, .nil, nofun⟩, rfl, List.Sublist.refl _⟩
  exact (serve_tallies calls hstart).books

-- the page in front is removed, and the one that was opened last takes its place
example : (serve [.ask (.create "" false), .ask (.create "" true), .ask (.create "" false),
    .ask (.remove [some (.number 2), some (.number 7)])] ({} : LiveBrowser).start {}).1.active =
      some 3 := rfl

end BrowserFlow.LiveBrowser
