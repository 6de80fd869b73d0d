import BrowserFlow.Browser.Simulated
import BrowserFlow.Proofs.Activity
import BrowserFlow.Proofs.Cutting
import BrowserFlow.Run.Progress

/-!
Where data blocks write. The parameter that names the variable is a template like any other: its
references are replaced first, and a star in front is dropped from what came out. So `*name`
names `name` as long as nothing is bound to it, and afterwards what its value renders to.

* `Step.DataKind.value`: what a data block has to keep, apart from where.
* `Step.perform_data`: a data block is that activity, and then one write.
* `Step.DataKind.target_eq_name_iff`: when the write goes to the name itself.
* `Run.step_keepsUnderTarget`: a step writes its value under the target and nothing else.
-/
namespace BrowserFlow
set_option autoImplicit false

/-! ## Templates that are one reference -/

theorem Text.IsWord.head_ne_star {w : List Char} (hw : IsWord w) : w.head? ≠ some '*' := by
  intro hstar
  have hmem : '*' ∈ w := List.mem_of_head? hstar
  have hword := hw.2 '*' hmem
  rw [isWordChar_star] at hword
  cases hword

theorem Token.cut_reference {name : String} (hw : Text.IsWord name.toList) :
    Token.cut ("*" ++ name) = [.starred name] := by
  have hf : Front ("*" ++ name).toList (.starred name) [] := by
    have hstar : Front ('*' :: (name.toList ++ [])) _ [] := .starred hw nofun
    rw [List.append_nil, String.ofList_toList] at hstar
    rw [String.toList_append]
    exact hstar
  exact (cuts_iff.1 (.reference hf .nil)).symm

namespace Template

theorem fill_reference {name : String} (hw : Text.IsWord name.toList) (store : Store) :
    fill store ("*" ++ name) = ((bound? store name).map render).getD ("*" ++ name) := by
  rw [fill, Token.cut_reference hw, List.map_singleton, ← expand_starred]
  simp

theorem named?_interpolateAll (store : Store) (m : Mapping) (key : String) :
    Mapping.named? (interpolateAll store m) key =
      (Mapping.named? m key).map (interpolate store) := by
  unfold Mapping.named? Mapping.get? interpolateAll
  rw [List.find?_map, Option.map_map, Option.map_map]
  rfl

theorem named_interpolateAll (store : Store) (m : Mapping) (key : String) :
    Mapping.named (interpolateAll store m) key = interpolate store (Mapping.named m key) := by
  unfold Mapping.named
  rw [named?_interpolateAll]
  cases Mapping.named? m key <;> rfl

end Template

/-! ## Targets -/

namespace Variables

theorem targetName_star (s : String) : targetName (.text ("*" ++ s)) = s := by
  simp [targetName, Value.display]

theorem targetName_of_head {s : String} (hs : s.toList.head? ≠ some '*') :
    targetName (.text s) = s := by
  simp only [targetName, Value.display]
  split
  · rename_i heq
    rw [heq] at hs
    exact absurd rfl hs
  · exact String.ofList_toList

theorem targetName_eq_iff {s name : String} :
    targetName (.text s) = name ↔ s = "*" ++ name ∨ (s = name ∧ name.toList.head? ≠ some '*') := by
  constructor
  · intro ht
    by_cases hs : s.toList.head? = some '*'
    · obtain ⟨cs, hcs⟩ := List.head?_eq_some_iff.1 hs
      have hstar : s = "*" ++ String.ofList cs := by
        rw [← String.toList_inj, hcs]
        simp
      rw [hstar, targetName_star] at ht
      exact .inl (by rw [hstar, ht])
    · rw [targetName_of_head hs] at ht
      exact .inr ⟨ht, ht ▸ hs⟩
  · rintro (rfl | ⟨rfl, hn⟩)
    · exact targetName_star name
    · exact targetName_of_head hn

/-- The write of a value under a name that is known; the empty name names nothing. -/
def writeUnder (key : String) (v : Value) : Option (String × Value) :=
  if key = "" then none else some (key, v)

theorem write?_text (s : String) (v : Value) :
    write? (.text s) v = writeUnder (targetName (.text s)) v := rfl

end Variables

namespace Store

def keep (s : Store) (key : String) (v : Option Value) : Store :=
  s.apply (v.bind (Variables.writeUnder key))

theorem get?_keep_of_ne (s : Store) {key other : String} (v : Option Value) (hne : other ≠ key) :
    (s.keep key v).get? other = s.get? other := by
  cases v with
  | none => rfl
  | some v =>
    by_cases hk : key = ""
    · simp [keep, Variables.writeUnder, hk, apply]
    · have hset := s.get?_set_of_ne key other v hne
      simpa [keep, Variables.writeUnder, hk, apply] using hset

theorem get?_keep_self (s : Store) {key : String} (v : Value) (hk : key ≠ "") :
    (s.keep key (some v)).get? key = some v := by
  have hset := s.get?_set_self key v
  simpa [keep, Variables.writeUnder, hk, apply] using hset

end Store

/-! ## Data blocks -/

namespace Dispatch

variable {W T P : Type} [Clock T]

/-- Asks a page for a value and gives it as it is kept, none when the answer has no data. -/
def reading (e : Engagement) (tab : TabRef) (action : PageAction) (params : Mapping) :
    Activity W T P (Option Value) := do
  if tab.isNone then Activity.fail (.noTabForAction action.name)
  else do
    awaitElement e tab action params
    let r ← query e tab action params
    Activity.ofExcept (if r.hasData then (kept action r.data).map some else .ok none)

theorem write?_eq (action : PageAction) {params : Mapping} {s : String} (r : PageResult)
    (ht : Mapping.named params "variable" = .text s) :
    write? action params r =
      (if r.hasData then (kept action r.data).map some else .ok none).map
        fun v => v.bind (Variables.writeUnder (Variables.targetName (.text s))) := by
  -- a blank target is left out before its name is looked at, and would name nothing anyway
  have hblank (v : Value) : (if (Value.text s).isTruthy then Variables.write? (.text s) v else none)
      = Variables.writeUnder (Variables.targetName (.text s)) v := by
    by_cases hs : s = ""
    · subst hs
      rfl
    · have htruthy : (Value.text s).isTruthy = true := by simpa [Value.isTruthy] using hs
      rw [if_pos htruthy, Variables.write?_text]
  unfold write?
  rw [ht]
  cases r.hasData with
  | false => rfl
  | true =>
    cases hk : kept action r.data with
    | error f => simp; rfl
    | ok v => simp [hblank]; rfl

theorem perform_reading (e : Engagement) (tab : TabRef) (action : PageAction) {params : Mapping}
    {s : String} (ht : Mapping.named params "variable" = .text s) :
    (perform e tab action params : Activity W T P StepResult) =
      reading e tab action params >>= fun v =>
        pure ⟨tab, v.bind (Variables.writeUnder (Variables.targetName (.text s)))⟩ := by
  have hwrite (r : PageResult) := write?_eq action r ht
  unfold perform reading
  by_cases htab : tab.isNone = true
  · rw [if_pos htab, if_pos htab]
    rfl
  · rw [if_neg htab, if_neg htab]
    simp only [Activity.bind_assoc, hwrite, Activity.ofExcept_map_bind]

end Dispatch

namespace Step

/-- The kinds of blocks that keep a value in a variable of the author's choice. -/
inductive DataKind where
  | setVariable
  | getTabInfo
  | readText
  | readAttribute
  | readTable
  deriving DecidableEq, Repr

namespace DataKind

variable {W T P : Type} [Clock T]

def kind : DataKind → BlockKind
  | setVariable => .setVariable
  | getTabInfo => .getTabInfo
  | readText => .readText
  | readAttribute => .readAttribute
  | readTable => .readTable

def infoOf (p : Mapping) (t : Tab) : Value :=
  let what := Parameter.choice (Mapping.named p "info_type") "url"
  if what = "url" then .text t.url
  else if what = "title" then .text t.title
  else handleValue t.id

/-- What a block has to keep, if anything, apart from where. -/
def value (k : DataKind) (e : Engagement) (p : Mapping) (tab : TabRef) :
    Activity W T P (Option Value) :=
  match k with
  | setVariable => pure (some (Mapping.named p "value"))
  | getTabInfo =>
    if tab.isSome then do
      let t ← Activity.call fun h : Host W T => h.get tab
      pure (some (infoOf p t))
    else pure none
  | readText => Dispatch.reading e tab .readText p
  | readAttribute => Dispatch.reading e tab .readAttribute p
  | readTable => Dispatch.reading e tab .readTable p

/-- The name that a target stands for, its references replaced: a star in front is dropped, and
where a variable is set a second one. -/
def key (k : DataKind) (s : String) : String :=
  match k with
  | setVariable => Variables.targetName (.text (Variables.targetName (.text s)))
  | _ => Variables.targetName (.text s)

def spellings (k : DataKind) (name : String) : List String :=
  match k with
  | setVariable => ["*" ++ ("*" ++ name), "*" ++ name, name]
  | _ => ["*" ++ name, name]

def target (k : DataKind) (store : Store) (name : String) : String :=
  k.key (Template.fill store ("*" ++ name))

theorem key_eq_iff (k : DataKind) {s name : String} (hn : name.toList.head? ≠ some '*') :
    k.key s = name ↔ s ∈ k.spellings name := by
  have hstar : ("*" ++ name).toList.head? = some '*' := by simp
  cases k with
  | setVariable =>
    -- the second star is dropped from what the first one left
    simp only [key, spellings, Variables.targetName_eq_iff, List.mem_cons, List.not_mem_nil,
      or_false, hn, hstar, ne_eq, not_true_eq_false, not_false_eq_true, and_true, and_false]
  | _ =>
    simp only [key, spellings, Variables.targetName_eq_iff, List.mem_cons, List.not_mem_nil,
      or_false, hn, ne_eq, not_false_eq_true, and_true]

theorem target_of_unset (k : DataKind) {store : Store} {name : String}
    (hw : Text.IsWord name.toList) (hu : Template.Unset store name) :
    k.target store name = name := by
  have hn : name.toList.head? ≠ some '*' := hw.head_ne_star
  have hfill : Template.fill store ("*" ++ name) = "*" ++ name := by
    rw [Template.fill_reference hw, Template.bound?_eq_none.2 hu]
    rfl
  rw [target, hfill, k.key_eq_iff hn]
  cases k <;> simp [spellings]

theorem target_of_bound (k : DataKind) {store : Store} {name : String} {v : Value}
    (hw : Text.IsWord name.toList) (hv : store.get? name = some v) (hne : v ≠ .null) :
    k.target store name = k.key (Template.render v) := by
  have hfill : Template.fill store ("*" ++ name) = Template.render v := by
    rw [Template.fill_reference hw, Template.bound?_eq_some.2 ⟨hv, hne⟩]
    rfl
  rw [target, hfill]

/-- `*name` names `name` while nothing is bound to it. Once something is, it does so only when
the value renders to the name. -/
theorem target_eq_name_iff (k : DataKind) {store : Store} {name : String}
    (hw : Text.IsWord name.toList) :
    k.target store name = name ↔ Template.Unset store name ∨
      ∃ v, store.get? name = some v ∧ v ≠ .null ∧ Template.render v ∈ k.spellings name := by
  cases hb : Template.bound? store name with
  | none =>
    have hu := Template.bound?_eq_none.1 hb
    exact iff_of_true (k.target_of_unset hw hu) (.inl hu)
  | some v =>
    obtain ⟨hv, hne⟩ := Template.bound?_eq_some.1 hb
    rw [k.target_of_bound hw hv hne, k.key_eq_iff hw.head_ne_star]
    constructor
    · intro hmem
      exact .inr ⟨v, hv, hne, hmem⟩
    · rintro (hu | ⟨u, hu, -, hmem⟩)
      · rw [Template.bound?_eq_none.2 hu] at hb
        cases hb
      · rw [hv] at hu
        cases hu
        exact hmem

end DataKind

variable {W T P : Type} [Clock T]

theorem perform_data (k : DataKind) (e : Engagement) {p : Mapping} (tab : TabRef) {s : String}
    (ht : Mapping.named p "variable" = .text s) :
    (perform e k.kind p tab : Activity W T P StepResult) =
      k.value e p tab >>= fun v => pure ⟨tab, v.bind (Variables.writeUnder (k.key s))⟩ := by
  cases k with
  | setVariable =>
    show pure (setVariable p tab) = _
    rw [setVariable, ht, Variables.write?_text]
    rfl
  | getTabInfo =>
    show getTabInfo p tab = _
    unfold getTabInfo DataKind.value
    rw [ht]
    by_cases htab : tab.isSome = true
    · rw [if_pos htab, if_pos htab, Activity.bind_assoc]
      rfl
    · rw [if_neg htab, if_neg htab]
      rfl
  | readText => exact Dispatch.perform_reading e tab .readText ht
  | readAttribute => exact Dispatch.perform_reading e tab .readAttribute ht
  | readTable => exact Dispatch.perform_reading e tab .readTable ht

end Step

namespace Run

variable {W T : Type} [Clock T]
open Step

theorem step_apply (a : Assignment) (b : Block) (tab : TabRef) (h : Host W T) (ds : List T)
    (sc : Scene W T) (p : Progress T) :
    step a b tab h ds sc p = ((execute a.engagement p.store b tab).lift >>= fun result => do
      Activity.modify fun q => { q with store := q.store.apply result.write }
      pure result.tab : Run W T TabRef) h ds sc p := rfl

theorem step_data {a : Assignment} {b : Block} {k : DataKind} {s : String}
    (hb : b.kind? = some k.kind) (ht : Mapping.named b.params "variable" = .text s)
    (tab : TabRef) (h : Host W T) (ds : List T) (sc : Scene W T) (p : Progress T) :
    step a b tab h ds sc p =
      ((k.value a.engagement (Template.interpolateAll p.store b.params) tab).lift >>= fun v => do
        Activity.modify fun q =>
          { q with store := q.store.keep (k.key (Template.fill p.store s)) v }
        pure tab) h ds sc p := by
  have hfill : Mapping.named (Template.interpolateAll p.store b.params) "variable" =
      .text (Template.fill p.store s) := by
    rw [Template.named_interpolateAll, ht]
    rfl
  have hexec : (execute a.engagement p.store b tab : Errand W T StepResult) =
      perform a.engagement k.kind (Template.interpolateAll p.store b.params) tab := by
    rw [execute, hb]
  rw [step_apply, hexec, perform_data k a.engagement tab hfill, Activity.lift_bind,
    Activity.bind_assoc]
  rfl

/-- A data block whose target is `*name` succeeds when the search for its value does. It writes
the value, if there is one, under the name that `*name` stands for in the store, and changes
nothing else; that is `name` itself while nothing is bound to it, or when what is bound to it
renders to a spelling of it. -/
theorem step_keepsUnderTarget {a : Assignment} {b : Block} {k : DataKind} {name : String}
    (hb : b.kind? = some k.kind) (hw : Text.IsWord name.toList)
    (ht : Mapping.named b.params "variable" = .text ("*" ++ name))
    (tab : TabRef) (h : Host W T) (ds : List T) (sc : Scene W T) (p : Progress T) :
    let search : Errand W T (Option Value) :=
      k.value a.engagement (Template.interpolateAll p.store b.params) tab
    let key := k.target p.store name
    (∀ tab' sc' p', step a b tab h ds sc p = (.done tab', sc', p') ↔
      ∃ v, search h ds sc () = (.done v, sc', ()) ∧ tab' = tab ∧
        p' = { p with store := p.store.keep key v }) ∧
    (∀ v other, other ≠ key → (p.store.keep key v).get? other = p.store.get? other) ∧
    (∀ v, key ≠ "" → (p.store.keep key (some v)).get? key = some v) ∧
    (key = name ↔ Template.Unset p.store name ∨
      ∃ v, p.store.get? name = some v ∧ v ≠ .null ∧ Template.render v ∈ k.spellings name) := by
  intro search key
  refine ⟨fun tab' sc' p' => ?_, ?_, ?_, k.target_eq_name_iff hw⟩
  · rw [step_data hb ht, Activity.bind_eq_done]
    constructor
    · rintro ⟨v, sc₁, p₁, hsearch, hwrite⟩
      obtain ⟨hv, rfl⟩ := Activity.lift_eq_done.1 hsearch
      cases hwrite
      exact ⟨v, hv, rfl, rfl⟩
    · rintro ⟨v, hv, rfl, rfl⟩
      exact ⟨v, sc', p, Activity.lift_eq_done.2 ⟨hv, rfl⟩, rfl⟩
  · intro v other hne
    exact p.store.get?_keep_of_ne v hne
  · intro v hne
    exact p.store.get?_keep_self v hne

/-- A block that sets a variable to a value, the variable named with a star in front. -/
def starredBlock (name : String) (v : Value) : Block :=
  { type := .text "set_variable"
    params := [(.text "variable", .text ("*" ++ name)), (.text "value", v)] }

def runStarred (name : String) (v : Value) (store : Store) :
    Outcome TabRef × Scene SimBrowser Float × Progress Float :=
  step ⟨{ name := "prices" }, {}, none⟩ (starredBlock name v) none SimBrowser.host []
    ⟨{}, 0.0, {}⟩ { store := store }

theorem step_keepsUnderTarget_price :
    (starredBlock "price" (.text "12")).kind? = some DataKind.setVariable.kind ∧
      Text.IsWord "price".toList ∧
      Mapping.named (starredBlock "price" (.text "12")).params "variable" =
        .text ("*" ++ "price") ∧
      runStarred "price" (.text "12") [("price", .text "10")] =
        (.done none, ⟨{}, 0.0, {}⟩,
          { store := [("price", .text "10"), ("10", .text "12")] }) := by
  have hb : (starredBlock "price" (.text "12")).kind? = some DataKind.setVariable.kind := by decide
  have hw : Text.IsWord "price".toList := Text.isWord_of_all (by decide) (by decide)
  have ht : Mapping.named (starredBlock "price" (.text "12")).params "variable" =
      .text ("*" ++ "price") := by decide
  have hstep := step_keepsUnderTarget (a := ⟨{ name := "prices" }, {}, none⟩) hb hw ht none
    SimBrowser.host [] ⟨{}, 0.0, {}⟩ { store := [("price", .text "10")] }
  refine ⟨hb, hw, ht, (hstep.1 _ _ _).2 ⟨some (.text "12"), rfl, rfl, ?_⟩⟩
  have hkeep : Store.keep [("price", .text "10")]
      (DataKind.setVariable.target [("price", .text "10")] "price") (some (.text "12")) =
      [("price", .text "10"), ("10", .text "12")] := by decide
  rw [hkeep]

/-- A second block with the target `*price` does not write the price. -/
theorem not_starred_writes_name :
    ¬ ∀ (name : String) (v : Value) (store : Store), Text.IsWord name.toList →
      ∀ tab sc p, runStarred name v store = (.done tab, sc, p) →
        p.store.get? name = some v ∧
          ∀ other, other ≠ name → p.store.get? other = store.get? other := by
  intro hwrites
  have hw : Text.IsWord "price".toList := Text.isWord_of_all (by decide) (by decide)
  have hget := hwrites "price" (.text "12") [("price", .text "10")] hw _ _ _ rfl
  exact absurd hget.1 (by decide)

end Run

end BrowserFlow
