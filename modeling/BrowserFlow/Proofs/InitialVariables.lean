import BrowserFlow.Proofs.Course
import BrowserFlow.Proofs.DryRuns
import BrowserFlow.Proofs.Occurrences
import BrowserFlow.Proofs.Targets

/-!
The variables that a run starts with. Items of the command line are gathered under their names as
they are written, each in the place where it came up first, and a star is dropped only afterwards.
So of two ways to write a name the one that came up later counts, and of its items the last.

* `ReadsAs`: an item as a name and a text.
* `CameUpLast`, `LastText`: which entry counts for a name.
* `Opens`: what a store has of a list of entries.
* `plan_opens`: the run of a plan starts with such a store.
* `not_last_item_counts`: an item that comes last and does not count.
-/
namespace BrowserFlow
set_option autoImplicit false

/-! ## Writing into a store -/

namespace Store

theorem get?_assign (s : Store) (target name : String) (v : Value) :
    (s.assign (.text target) v).get? name =
      if name ≠ "" ∧ Variables.targetName (.text target) = name then some v else s.get? name := by
  have hkeep : s.assign (.text target) v = s.keep (Variables.targetName (.text target)) (some v) :=
    rfl
  rw [hkeep]
  by_cases hname : Variables.targetName (.text target) = name
  · rw [hname]
    by_cases hempty : name = ""
    · subst hempty
      rw [if_neg fun h => h.1 rfl]
      rfl
    · rw [if_pos ⟨hempty, rfl⟩, get?_keep_self _ _ hempty]
  · rw [if_neg fun h => hname h.2, get?_keep_of_ne _ _ (Ne.symm hname)]

theorem ofAssignments_concat (pairs : List (String × Value)) (p : String × Value) :
    ofAssignments (pairs ++ [p]) = (ofAssignments pairs).assign (.text p.1) p.2 := by
  rw [ofAssignments, List.foldl_append]
  rfl

/-- Under a name stands the value of the last target that stands for it. -/
theorem get?_ofAssignments (pairs : List (String × Value)) {name : String} (hne : name ≠ "") :
    (ofAssignments pairs).get? name =
      (pairs.reverse.find? fun p => Variables.targetName (.text p.1) = name).map Prod.snd := by
  induction pairs using List.reverseRecOn with
  | nil => rfl
  | append_singleton pairs p ih =>
    rw [ofAssignments_concat, get?_assign, ih, List.reverse_append, List.reverse_singleton,
      List.singleton_append, List.find?_cons]
    by_cases hp : Variables.targetName (.text p.1) = name <;> simp [hp, hne]

theorem get?_ofAssignments_empty (pairs : List (String × Value)) :
    (ofAssignments pairs).get? "" = none := by
  induction pairs using List.reverseRecOn with
  | nil => rfl
  | append_singleton pairs p ih =>
    rw [ofAssignments_concat, get?_assign, ih]
    simp

end Store

namespace CommandLine

/-! ## Items -/

/-- What an item says: a name in front of its first equals sign, the blanks around it left out, and
the text behind that sign. -/
def ReadsAs (item : String) (e : String × String) : Prop :=
  ∃ front : String, '=' ∉ front.toList ∧ item = front ++ "=" ++ e.2 ∧ e.1 = Text.trim front

/-- A way to write a name: with a star in front, or as it is. -/
inductive Spelling (name : String) : String → Prop
  | starred : Spelling name ("*" ++ name)
  | plain : name.toList.head? ≠ some '*' → Spelling name name

theorem spelling_iff {name w : String} :
    Spelling name w ↔ Variables.targetName (.text w) = name := by
  rw [Variables.targetName_eq_iff]
  constructor
  · rintro (_ | hn)
    · exact .inl rfl
    · exact .inr ⟨rfl, hn⟩
  · rintro (rfl | ⟨rfl, hn⟩)
    · exact .starred
    · exact .plain hn

theorem exists_readsAs {item : String} (hitem : '=' ∈ item.toList) : ∃ e, ReadsAs item e := by
  obtain ⟨front, text, hsplit, hfront⟩ := List.eq_append_cons_of_mem hitem
  refine ⟨(Text.trim (String.ofList front), String.ofList text), String.ofList front, ?_, ?_, rfl⟩
  · rw [String.toList_ofList]
    exact hfront
  · rw [← String.toList_inj, hsplit]
    simp

theorem splitEquals_append {front : String} (hfront : '=' ∉ front.toList) (text : String) :
    splitEquals (front ++ "=" ++ text) = (front, some text) := by
  have hlist : (front ++ "=" ++ text).toList = front.toList ++ '=' :: text.toList := by simp
  have hrun : ∀ c ∈ front.toList, decide (c ≠ '=') = true := by
    intro c hc
    rw [decide_eq_true_eq]
    rintro rfl
    exact hfront hc
  have hrest : ∀ c ∈ ('=' :: text.toList).head?, decide (c ≠ '=') = false := by simp
  unfold splitEquals
  dsimp only
  rw [hlist, Text.takeWhile_run hrun hrest, Text.dropWhile_run hrun hrest]
  simp

theorem readVariable_of_readsAs {item : String} {e : String × String} (he : ReadsAs item e)
    (s : Store) : readVariable s item = .ok (s.set e.1 (.text e.2)) := by
  obtain ⟨front, hfront, rfl, hname⟩ := he
  rw [readVariable, splitEquals_append hfront, hname]

/-! ## Gathering entries -/

/-- The store of entries under their names as they are written. -/
def gather (entries : List (String × String)) : Store :=
  entries.foldl (fun s e => s.set e.1 (.text e.2)) []

theorem gather_concat (entries : List (String × String)) (e : String × String) :
    gather (entries ++ [e]) = (gather entries).set e.1 (.text e.2) := by
  rw [gather, List.foldl_append]
  rfl

theorem foldlM_of_readsAs {items : List String} {entries : List (String × String)}
    (hentries : List.Forall₂ ReadsAs items entries) (s : Store) :
    items.foldlM readVariable s =
      .ok (entries.foldl (fun s e => s.set e.1 (.text e.2)) s) := by
  induction hentries generalizing s with
  | nil => rfl
  | cons he _ ih =>
    rw [List.foldlM_cons, readVariable_of_readsAs he, List.foldl_cons]
    exact ih _

theorem readVariables_of_readsAs {items : List String} {entries : List (String × String)}
    (hentries : List.Forall₂ ReadsAs items entries) : readVariables items = .ok (gather entries) :=
  foldlM_of_readsAs hentries []

theorem exists_entries {items : List String} (hitems : ∀ item ∈ items, '=' ∈ item.toList) :
    ∃ entries, List.Forall₂ ReadsAs items entries := by
  induction items with
  | nil => exact ⟨[], .nil⟩
  | cons item items ih =>
    obtain ⟨hitem, hrest⟩ := List.forall_mem_cons.1 hitems
    obtain ⟨e, he⟩ := exists_readsAs hitem
    obtain ⟨entries, hentries⟩ := ih hrest
    exact ⟨e :: entries, .cons he hentries⟩

/-! ## Which entry counts -/

/-- Of all ways in which entries write a name, this one came up for the first time after the
others. -/
structure CameUpLast (entries : List (String × String)) (name w : String) : Prop where
  used : w ∈ entries.map Prod.fst
  spelling : Spelling name w
  latest : ∀ w' ∈ entries.map Prod.fst, Spelling name w' →
    (entries.map Prod.fst).idxOf w' ≤ (entries.map Prod.fst).idxOf w

/-- The last of the entries that write a name like this has this text. -/
def LastText (entries : List (String × String)) (w text : String) : Prop :=
  ∃ before after, entries = before ++ (w, text) :: after ∧ ∀ e ∈ after, e.1 ≠ w

section Entries
variable {entries : List (String × String)} {name w : String}

theorem keys_gather (entries : List (String × String)) :
    (gather entries).map Prod.fst = (entries.map Prod.fst).eraseDups := by
  induction entries using List.reverseRecOn with
  | nil => rfl
  | append_singleton entries e ih =>
    rw [gather_concat, Store.set, Dictionary.map_fst_put, ih, List.map_append, List.map_singleton,
      eraseDups_concat]
    simp only [List.mem_eraseDups]

theorem get?_gather {v : Value} :
    (gather entries).get? w = some v ↔ ∃ text, v = .text text ∧ LastText entries w text := by
  have hget : (gather entries).get? w =
      (entries.reverse.find? fun e => e.1 = w).map fun e => .text e.2 := by
    induction entries using List.reverseRecOn with
    | nil => rfl
    | append_singleton entries e ih =>
      rw [gather_concat, Store.get?_set, ih, List.reverse_append, List.reverse_singleton,
        List.singleton_append, List.find?_cons]
      by_cases he : e.1 = w
      · simp [he]
      · simp [he, Ne.symm he]
  rw [hget, Option.map_eq_some_iff]
  constructor
  · rintro ⟨e, he, rfl⟩
    obtain ⟨hname, before, after, heq, hafter⟩ := find?_reverse_eq_some.1 he
    have hw : e.1 = w := by simpa using hname
    subst hw
    exact ⟨e.2, rfl, before, after, heq, fun e' he' => by simpa using hafter e' he'⟩
  · rintro ⟨text, rfl, before, after, heq, hafter⟩
    refine ⟨(w, text), find?_reverse_eq_some.2 ⟨by simp, before, after, heq, ?_⟩, rfl⟩
    intro e he
    simpa using hafter e he

/-- The way to write a name that came up last is the last of the gathered names that stands for
it. -/
theorem find?_reverse_keys :
    (gather entries |>.map Prod.fst).reverse.find?
        (fun w => Variables.targetName (.text w) = name) = some w ↔
      CameUpLast entries name w := by
  have hpairwise := pairwise_eraseDups (entries.map Prod.fst)
  rw [find?_reverse_eq_some, decide_eq_true_eq, ← spelling_iff, keys_gather]
  constructor
  · rintro ⟨hspelling, before, after, heq, hafter⟩
    have hused : w ∈ (entries.map Prod.fst).eraseDups := by simp [heq]
    refine ⟨List.mem_eraseDups.1 hused, hspelling, ?_⟩
    intro w' hw' hspelling'
    rw [heq, List.pairwise_append] at hpairwise
    have hmem : w' ∈ before ++ w :: after := heq ▸ List.mem_eraseDups.2 hw'
    obtain hbefore | hrest := List.mem_append.1 hmem
    · have hlt := hpairwise.2.2 w' hbefore w List.mem_cons_self
      omega
    · obtain rfl | hin := List.mem_cons.1 hrest
      · exact Nat.le_refl _
      · have hother : ¬ Variables.targetName (.text w') = name := by simpa using hafter w' hin
        exact absurd (spelling_iff.1 hspelling') hother
  · rintro ⟨hused, hspelling, hlatest⟩
    obtain ⟨before, after, heq⟩ := List.append_of_mem (List.mem_eraseDups.2 hused)
    refine ⟨hspelling, before, after, heq, ?_⟩
    intro w' hin
    rw [heq, List.pairwise_append, List.pairwise_cons] at hpairwise
    have hlt := hpairwise.2.1.1 w' hin
    have hused' : w' ∈ (entries.map Prod.fst).eraseDups := by simp [heq, hin]
    rw [decide_eq_false_iff_not, ← spelling_iff]
    intro hspelling'
    have hle := hlatest w' (List.mem_eraseDups.1 hused') hspelling'
    omega

theorem nodup_keys_gather (entries : List (String × String)) :
    ((gather entries).map Prod.fst).Nodup := by
  rw [keys_gather]
  refine (pairwise_eraseDups _).imp ?_
  rintro a b hlt rfl
  omega

/-- What is found from the end is the entry that counts. -/
theorem find?_reverse_gather {p : String × Value} :
    (gather entries).reverse.find? (fun p => Variables.targetName (.text p.1) = name) = some p ↔
      CameUpLast entries name p.1 ∧ (gather entries).get? p.1 = some p.2 := by
  have hkeys : (gather entries).reverse.map Prod.fst = ((gather entries).map Prod.fst).reverse :=
    List.map_reverse
  have hfound {q : String × Value} (hq : (gather entries).reverse.find?
      (fun p => Variables.targetName (.text p.1) = name) = some q) :
      (gather entries).get? q.1 = some q.2 :=
    Dictionary.lookup_of_mem (nodup_keys_gather entries)
      (List.mem_reverse.1 (List.mem_of_find?_eq_some hq))
  rw [← find?_reverse_keys, ← hkeys, List.find?_map]
  constructor
  · intro hp
    refine ⟨?_, hfound hp⟩
    rw [Option.map_eq_some_iff]
    exact ⟨p, hp, rfl⟩
  · -- names are gathered once each, so the name that is found has one value
    rintro ⟨hlast, hget⟩
    obtain ⟨q, hq, hname⟩ := Option.map_eq_some_iff.1 hlast
    have hvalue : q.2 = p.2 := by
      have hq' := hfound hq
      rw [hname, hget] at hq'
      exact (Option.some.inj hq').symm
    rw [← Prod.ext hname hvalue]
    exact hq

theorem get?_opening {v : Value} :
    (Store.ofAssignments (gather entries)).get? name = some v ↔
      name ≠ "" ∧ ∃ w text, CameUpLast entries name w ∧ LastText entries w text ∧
        v = .text text := by
  by_cases hname : name = ""
  · rw [hname, Store.get?_ofAssignments_empty]
    simp
  · rw [Store.get?_ofAssignments _ hname, Option.map_eq_some_iff]
    constructor
    · rintro ⟨⟨w, u⟩, hfind, rfl⟩
      obtain ⟨hlast, hget⟩ := find?_reverse_gather.1 hfind
      obtain ⟨text, rfl, htext⟩ := get?_gather.1 hget
      exact ⟨hname, w, text, hlast, htext, rfl⟩
    · rintro ⟨-, w, text, hlast, htext, rfl⟩
      have hget : (gather entries).get? w = some (.text text) := get?_gather.2 ⟨text, rfl, htext⟩
      exact ⟨(w, .text text), find?_reverse_gather.2 ⟨hlast, hget⟩, rfl⟩

theorem exists_get?_opening :
    (∃ v, (Store.ofAssignments (gather entries)).get? name = some v) ↔
      name ≠ "" ∧ ∃ e ∈ entries, Spelling name e.1 := by
  constructor
  · rintro ⟨v, hv⟩
    obtain ⟨hname, w, text, hlast, -⟩ := get?_opening.1 hv
    obtain ⟨e, he, rfl⟩ := List.mem_map.1 hlast.used
    exact ⟨hname, e, he, hlast.spelling⟩
  · rintro ⟨hname, e, he, hspelling⟩
    rw [Store.get?_ofAssignments _ hname]
    have hused : e.1 ∈ (gather entries).map Prod.fst := by
      rw [keys_gather, List.mem_eraseDups]
      exact List.mem_map_of_mem he
    obtain ⟨p, hp, hp'⟩ := List.mem_map.1 hused
    have hfound : ((gather entries).reverse.find?
        fun p => Variables.targetName (.text p.1) = name).isSome = true := by
      rw [List.find?_isSome]
      refine ⟨p, List.mem_reverse.2 hp, ?_⟩
      rw [decide_eq_true_eq, hp', ← spelling_iff]
      exact hspelling
    obtain ⟨q, hq⟩ := Option.isSome_iff_exists.1 hfound
    exact ⟨q.2, by rw [hq]; rfl⟩

/-- What a store has of a list of entries. It binds the names that are not empty and occur, in
whatever way they are written. Of all ways to write a name the one that came up last counts, and of
the entries that write it so the last; that is the last entry with the name at all if none of the
other ways came up later than its own. -/
structure Opens (entries : List (String × String)) (s : Store) : Prop where
  bound : ∀ name, (∃ v, s.get? name = some v) ↔ name ≠ "" ∧ ∃ e ∈ entries, Spelling name e.1
  value : ∀ name v, s.get? name = some v ↔
    name ≠ "" ∧ ∃ w text, CameUpLast entries name w ∧ LastText entries w text ∧ v = .text text
  last : ∀ name before w text after, entries = before ++ (w, text) :: after → name ≠ "" →
    (∀ e ∈ after, ¬ Spelling name e.1) → CameUpLast entries name w →
      s.get? name = some (.text text)

theorem opens_gather (entries : List (String × String)) :
    Opens entries (Store.ofAssignments (gather entries)) where
  bound _ := exists_get?_opening
  value _ _ := get?_opening
  last := by
    intro name before w text after heq hname hafter hlast
    refine get?_opening.2 ⟨hname, w, text, hlast, ⟨before, after, heq, ?_⟩, rfl⟩
    rintro e he rfl
    exact hafter e he hlast.spelling

end Entries

/-! ## Runs of plans -/

section Plans
variable {W T : Type}

theorem readVariables_of_plan {place : Place W T} {path : List String} {o : RunOptions} {p : Plan}
    (hp : plan place o path = .ok p) : readVariables o.bindings = .ok p.store := by
  cases hload : loadFlow place path with
  | error t =>
    rw [plan_of_error hload] at hp
    cases hp
  | ok f =>
    obtain ⟨v, hv⟩ := load_of_loadFlow hload
    obtain ⟨-, c, -, hc, -⟩ := buildConfig_of_load hv o
    rw [plan_eq hload hc] at hp
    cases hread : readVariables o.bindings with
    | error f =>
      rw [hread] at hp
      cases hp
    | ok s =>
      rw [hread] at hp
      cases hp
      rfl

theorem readVariables_of_prepare {place : Place W T} {flow : String} {o : RunOptions} {p : Plan}
    (hp : prepare place flow o = .ok p) : readVariables o.bindings = .ok p.store := by
  unfold prepare at hp
  split at hp
  · cases hp
  · cases hp
  · exact readVariables_of_plan hp

end Plans

/-- A run begins with its first report, and by then its store holds the initial variables. -/
theorem opening_store {W T : Type} [Clock T] {e : Engine} {host : Host W T} {flow : Flow}
    {tab : TabRef} {sink : Option Sink} {initial : List (String × Value)} {world : W} {now : T}
    {ms : List (Moment W T)} (hms : e.RunsThrough host flow tab sink initial world now ms) :
    ∃ m rest, ms = m :: rest ∧ m.progress.store = Store.ofAssignments initial := by
  unfold Engine.RunsThrough at hms
  generalize e.result host flow tab sink initial world now = result at hms
  cases hms with
  | completed => exact ⟨_, _, rfl, rfl⟩
  | failed => exact ⟨_, _, rfl, rfl⟩
  | lost => exact ⟨_, _, rfl, rfl⟩

/-- Items with an equals sign are read, as entries with a name and a text, and every run that is
prepared with them starts on a store that has of these entries what `Opens` says. -/
theorem plan_opens {items : List String} (hitems : ∀ item ∈ items, '=' ∈ item.toList) :
    ∃ entries s, List.Forall₂ ReadsAs items entries ∧ Opens entries s ∧
      (readVariables items).map Store.ofAssignments = .ok s ∧
      ∀ (W T : Type) [Clock T] (place : Place W T) (flow : String) (o : RunOptions) (p : Plan),
        o.bindings = items → prepare place flow o = .ok p →
        ∀ (e : Engine) (tab : TabRef) (sink : Option Sink) (world : W) (now : T)
          (ms : List (Moment W T)),
          e.RunsThrough place.host p.flow tab sink p.store world now ms →
          ∃ m rest, ms = m :: rest ∧ m.progress.store = s := by
  obtain ⟨entries, hentries⟩ := exists_entries hitems
  have hread : readVariables items = .ok (gather entries) := readVariables_of_readsAs hentries
  refine ⟨entries, Store.ofAssignments (gather entries), hentries, opens_gather entries, ?_, ?_⟩
  · rw [hread]
    rfl
  · intro W T _ place flow o p hbindings hp e tab sink world now ms hms
    have hstore : readVariables o.bindings = .ok p.store := readVariables_of_prepare hp
    rw [hbindings, hread] at hstore
    rw [Except.ok.inj hstore]
    exact opening_store hms

/-- A name without a star, then with one, then without again. -/
def starBetween : List String := ["a=1", "*a=2", "a=3"]

theorem plan_opens_starBetween :
    (∀ item ∈ starBetween, '=' ∈ item.toList) ∧
      ∃ entries, List.Forall₂ ReadsAs starBetween entries ∧ Opens entries [("a", .text "2")] := by
  have hitems : ∀ item ∈ starBetween, '=' ∈ item.toList := by decide
  obtain ⟨entries, s, hentries, hopens, hread, -⟩ := plan_opens hitems
  have hs : (readVariables starBetween).map Store.ofAssignments = .ok [("a", .text "2")] := rfl
  rw [hs] at hread
  cases hread
  exact ⟨hitems, entries, hentries, hopens⟩

/-- The last item that names `a` gives it 3, and it starts as 2. -/
theorem not_last_item_counts :
    ¬ ∀ (items : List String) (entries : List (String × String)),
      List.Forall₂ ReadsAs items entries → ∀ s,
        (readVariables items).map Store.ofAssignments = .ok s →
        ∀ name before w text after, entries = before ++ (w, text) :: after → name ≠ "" →
          Spelling name w → (∀ e ∈ after, ¬ Spelling name e.1) →
          s.get? name = some (.text text) := by
  intro hall
  have hentries : List.Forall₂ ReadsAs starBetween [("a", "1"), ("*a", "2"), ("a", "3")] :=
    .cons ⟨"a", by decide, rfl, rfl⟩ <| .cons ⟨"*a", by decide, rfl, rfl⟩ <|
      .cons ⟨"a", by decide, rfl, rfl⟩ .nil
  have hthree := hall starBetween _ hentries [("a", .text "2")] rfl "a" [("a", "1"), ("*a", "2")]
    "a" "3" [] rfl (by decide) (.plain (by decide)) nofun
  exact absurd hthree (by decide)

end CommandLine

end BrowserFlow
