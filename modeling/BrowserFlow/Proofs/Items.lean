import BrowserFlow.Browser.Simulated
import BrowserFlow.Proofs.Course
import BrowserFlow.Proofs.Targets

/-!
What blocks of a for-each see of their item. The selector of an item is put into the blocks of
its pass before their parameters are filled, so it is filled like any other text: it arrives as it
is where each of its references stands for itself, and changed where one has a value.

* `Run.block_handled`: a block is handled with its parameters, filled from the store.
* `Block.named?_bindItem`: a parameter that is the item mark is handed on as the filled selector.
* `Repeater.forEach_handsItems`: so it goes for every block of every pass of a for-each.
-/
namespace BrowserFlow
set_option autoImplicit false

/-! ## From a block to its handler -/

namespace Run

variable {W T : Type} [Clock T]

def check (a : Assignment) (params : Mapping) (tab : TabRef) : Run W T Unit := do
  let verdict ← (Condition.evaluate a.engagement params tab).lift
  if verdict.passed then pure ()
  else
    match FailurePolicy.ofValue (Mapping.named params "on_fail") with
    | .stop => Activity.fail (.conditionFailed (some verdict.reason))
    | .skip n => Activity.modify fun p => { p with skips := n }

def respond (e : Engagement) (b : Block) (params : Mapping) (tab : TabRef) :
    Errand W T StepResult :=
  match b.kind? with
  | none => Activity.fail (.unknownType b.type)
  | some kind => Step.perform e kind params tab

def act (a : Assignment) (b : Block) (params : Mapping) (tab : TabRef) : Run W T TabRef := do
  let result ← (respond a.engagement b params tab).lift
  Activity.modify fun p => { p with store := p.store.apply result.write }
  pure result.tab

/-- What becomes of a block, given its parameters. Of the block itself only its kind counts. -/
def handle (a : Assignment) (b : Block) (params : Mapping) (tab : TabRef) : Run W T TabRef :=
  if b.kind? = some .condition then do
    check a params tab
    pure tab
  else act a b params tab

theorem block_handled (a : Assignment) (b : Block) (tab : TabRef) (h : Host W T) (ds : List T)
    (s : Scene W T) (p : Progress T) :
    block a b tab h ds s p =
      handle a b (Template.interpolateAll p.store b.params) tab h ds s p := by
  have hcheck : condition a b tab h ds s p =
      check a (Template.interpolateAll p.store b.params) tab h ds s p := rfl
  have hstep : step a b tab h ds s p =
      act a b (Template.interpolateAll p.store b.params) tab h ds s p := rfl
  unfold block handle
  by_cases hk : b.kind? = some .condition
  · rw [if_pos hk, if_pos hk]
    exact Activity.bind_congr hcheck fun _ _ _ _ => rfl
  · rw [if_neg hk, if_neg hk]
    exact hstep

end Run

/-! ## Items in parameters -/

namespace Block

theorem named?_bindItem {b : Block} {key : String}
    (hm : Mapping.named? b.params key = some itemMark)
    (selector : String) :
    Mapping.named? (b.bindItem selector).params key = some (.text selector) := by
  unfold Mapping.named? Mapping.get? at hm ⊢
  obtain ⟨e, he, hv⟩ := Option.map_eq_some_iff.1 hm
  rw [bindItem, List.find?_map]
  -- only values change, so the same entry is found
  have hkeys : (fun e : Value × Value => e.1.sameKey (.text key)) ∘
      (fun e : Value × Value => (e.1, if e.2 = itemMark then .text selector else e.2)) =
      fun e => e.1.sameKey (.text key) := rfl
  rw [hkeys, he, Option.map_some, Option.map_some, if_pos hv]

end Block

/-! ## Items in the passes of a for-each -/

namespace Course

variable {W T : Type} [Clock T] {a : Assignment} {h : Host W T} {ds : List T} {tab : TabRef}
  {s : Scene W T} {p : Progress T} {ms : List (Moment W T)}

/-- Every block that a pass starts is a block of the body, changed as that pass changes them. -/
theorem Blocks.starts {n : Nat} {f : Block → Block} {bs : List Block} {r : Result W T TabRef}
    (hc : Blocks a h n f ds bs tab s p ms r) {m : Moment W T} (hm : m ∈ ms) {σ : Scope}
    {b' : Block} {tab' : TabRef} (hd : m.deed = .start σ b' tab') :
    σ = .body n ∧ ∃ b ∈ bs, b' = f b := by
  induction hc with
  | nil => cases hm
  | stopped hs => cases hm
  | disabled hs hb hc ih =>
    obtain ⟨hσ, b, hmem, hb'⟩ := ih hm
    exact ⟨hσ, b, List.mem_cons_of_mem _ hmem, hb'⟩
  | leftOut hs hb hk hc ih =>
    obtain _ | ⟨_, hm⟩ := hm
    · cases hd
    · obtain ⟨hσ, b, hmem, hb'⟩ := ih hm
      exact ⟨hσ, b, List.mem_cons_of_mem _ hmem, hb'⟩
  | broke hs hb hk hr =>
    obtain _ | ⟨_, _ | ⟨_, ⟨⟩⟩⟩ := hm
    · cases hd
      exact ⟨rfl, _, List.mem_cons_self, rfl⟩
    · cases hd
  | ran hs hb hk hr hc ih =>
    obtain _ | ⟨_, _ | ⟨_, hm⟩⟩ := hm
    · cases hd
      exact ⟨rfl, _, List.mem_cons_self, rfl⟩
    · cases hd
    · obtain ⟨hσ, b, hmem, hb'⟩ := ih hm
      exact ⟨hσ, b, List.mem_cons_of_mem _ hmem, hb'⟩

theorem Pass.starts {ρ : Repeater.Rounds} {body : List Block} {n : Nat} {r : Result W T TabRef}
    (hc : Pass a h ρ body ds n tab s p ms r) {s' : Scene W T} {p' : Progress T} {m : Moment W T}
    (hm : m ∈ ρ.head a n s p ++ ms ++ [⟨.leave n, s', p'⟩]) {σ : Scope} {b' : Block}
    {tab' : TabRef} (hd : m.deed = .start σ b' tab') :
    σ = .body n ∧ ∃ b ∈ body, b' = ρ.transform n b := by
  simp only [Repeater.Rounds.head, List.mem_append, List.mem_cons, List.not_mem_nil, or_false] at hm
  obtain ((rfl | rfl) | hm) | rfl := hm
  · cases hd
  · cases hd
  · exact Blocks.starts hc hm hd
  · cases hd

theorem Passes.starts {ρ : Repeater.Rounds} {body : List Block} {done left : Nat}
    {r : Result W T (TabRef × Nat)} (hc : Passes a h ρ body ds done left tab s p ms r)
    {m : Moment W T} (hm : m ∈ ms) {σ : Scope} {b' : Block} {tab' : TabRef}
    (hd : m.deed = .start σ b' tab') :
    ∃ n, σ = .body n ∧ done < n ∧ n ≤ done + left ∧ ∃ b ∈ body, b' = ρ.transform n b := by
  induction hc with
  | ended => cases hm
  | stopped hs => cases hm
  | @broke done left _ _ _ _ _ _ _ hs hp =>
    obtain ⟨hσ, hb⟩ := hp.starts hm hd
    exact ⟨done + 1, hσ, by omega, by omega, hb⟩
  | @cutShort done left _ _ _ _ _ _ _ hs hp hs' =>
    obtain ⟨hσ, hb⟩ := hp.starts hm hd
    exact ⟨done + 1, hσ, by omega, by omega, hb⟩
  | @next done left _ _ _ _ _ _ _ _ _ hs hp hs' hc ih =>
    rw [List.append_cons, List.mem_append] at hm
    obtain hm | hm := hm
    · obtain ⟨hσ, hb⟩ := hp.starts hm hd
      exact ⟨done + 1, hσ, by omega, by omega, hb⟩
    · obtain ⟨n, hσ, hlt, hle, hb⟩ := ih hm
      exact ⟨n, hσ, by omega, by omega, hb⟩

end Course

namespace Repeater

variable {W T : Type} [Clock T]

def parentOf (store : Store) (b : Block) : String :=
  Step.textOf (Mapping.named (Template.interpolateAll store b.params) "selector")

def childOf (c : Config) (store : Store) (b : Block) : String :=
  let chosen :=
    Step.textOf (Mapping.named (Template.interpolateAll store b.params) "child_selector")
  if chosen = "" then c.defaultChildSelector else chosen

/-- With a tab and a block a for-each counts its items first, and then looks for its body. -/
theorem forEachSetup_apply {a : Assignment} {index : Nat} {tab : TabRef} {b : Block}
    (htab : tab ≠ none) (hb : a.flow.blocks[index]? = some b) (h : Host W T) (ds : List T)
    (s : Scene W T) (p : Progress T) :
    forEachSetup a index tab h ds s p =
      ((itemCount a.engagement tab (parentOf p.store b)
        (childOf a.engagement.config p.store b)).lift
        >>= fun count =>
          Activity.ofExcept (BodyRange.ofRepeater a.flow.blocks index) >>= fun range =>
            pure ⟨.ofItems b (parentOf p.store b) (childOf a.engagement.config p.store b) count,
              count, range⟩) h ds s p := by
  rw [forEachSetup, if_neg (by simpa using htab), hb]
  rfl

theorem forEachSetup_done {a : Assignment} {index : Nat} {tab : TabRef} {h : Host W T}
    {ds : List T} {s s' : Scene W T} {p p' : Progress T} {u : Setup}
    (hu : forEachSetup a index tab h ds s p = (.done u, s', p')) :
    ∃ b n, a.flow.blocks[index]? = some b ∧
      itemCount a.engagement tab (parentOf p.store b) (childOf a.engagement.config p.store b) h ds
        s () = (.done n, s', ()) ∧
      u = ⟨.ofItems b (parentOf p.store b) (childOf a.engagement.config p.store b) n, n,
        BodyRange.after a.flow.blocks index⟩ ∧ p' = p := by
  by_cases htab : tab = none
  · subst htab
    cases hu
  · cases hb : a.flow.blocks[index]? with
    | none =>
      rw [forEachSetup, if_neg (by simpa using htab), hb] at hu
      cases hu
    | some b =>
      rw [forEachSetup_apply htab hb, Activity.bind_eq_done] at hu
      obtain ⟨n, s₁, p₁, hn, hu⟩ := hu
      obtain ⟨hn, rfl⟩ := Activity.lift_eq_done.1 hn
      cases hr : BodyRange.ofRepeater a.flow.blocks index with
      | error f =>
        rw [hr] at hu
        cases hu
      | ok range =>
        rw [hr] at hu
        cases hu
        obtain ⟨rfl, -⟩ := BodyRange.ofRepeater_eq_ok hr
        exact ⟨b, _, rfl, hn, rfl, rfl⟩

theorem forEachSetup_rounds {a : Assignment} {index : Nat} {tab : TabRef} {h : Host W T}
    {ds : List T} {s s' : Scene W T} {p p' : Progress T} {u : Setup}
    (hu : forEachSetup a index tab h ds s p = (.done u, s', p')) :
    ∃ b, a.flow.blocks[index]? = some b ∧
      u.rounds =
        .ofItems b (parentOf p.store b) (childOf a.engagement.config p.store b) u.count := by
  obtain ⟨b, n, hb, -, rfl, -⟩ := forEachSetup_done hu
  exact ⟨b, hb, rfl⟩

/-- Every block that a for-each starts is a block of its body in the pass of an item, and it is
handled with its parameters filled from the store of that moment. A parameter that is the item
mark is handed on as the selector of the item, filled once more; it arrives as it was built when
each of its references stands for itself. -/
theorem forEach_handsItems (a : Assignment) (h : Host W T) (ds : List T) (index : Nat)
    (tab : TabRef) (s : Scene W T) (p : Progress T) :
    ∃ ms, Course.Repeater a h (forEachSetup a index tab) ds tab s p ms
        (forEach a index tab h ds s p) ∧
      ∀ m ∈ ms, ∀ σ b' tab', m.deed = .start σ b' tab' →
        ∃ b₀ b n, a.flow.blocks[index]? = some b₀ ∧ b ∈ a.flow.blocks ∧ σ = .body n ∧ 0 < n ∧
          let selector :=
            itemSelector (parentOf p.store b₀) (childOf a.engagement.config p.store b₀) n
          let params := Template.interpolateAll m.progress.store (b.bindItem selector).params
          b' = b.bindItem selector ∧
          (∀ ds, Run.block a b' tab' h ds m.scene m.progress =
            Run.handle a b params tab' h ds m.scene m.progress) ∧
          ∀ key, Mapping.named? b.params key = some itemMark →
            Mapping.named? params key =
              some (.text (Template.fill m.progress.store selector)) ∧
            ((∀ t ∈ Token.cut selector,
                Template.Stands m.progress.store t (String.ofList t.source)) →
              Mapping.named? params key = some (.text selector)) := by
  obtain ⟨ms, hc⟩ := Course.exists_repeater (a := a) (h := h) (forEachSetup a index tab) ds tab s p
  rw [← forEach_eq] at hc
  refine ⟨ms, hc, fun m hm σ b' tab' hd => ?_⟩
  generalize forEach a index tab h ds s p = r at hc
  cases hc with
  | unready hu => cases hm
  | @ready u s₁ p₁ ms r hu hp =>
    obtain ⟨b₀, hb₀, hrounds⟩ := forEachSetup_rounds hu
    obtain ⟨n, hσ, hlt, -, b, hb, rfl⟩ := hp.starts hm hd
    have hmem : b ∈ a.flow.blocks := List.mem_of_mem_take (List.mem_of_mem_drop hb)
    have htransform (b : Block) : u.rounds.transform n b = b.bindItem
        (itemSelector (parentOf p.store b₀) (childOf a.engagement.config p.store b₀) n) := by
      rw [hrounds]
      rfl
    refine ⟨b₀, b, n, hb₀, hmem, hσ, hlt, htransform b, fun ds => ?_, fun key hkey => ?_⟩
    · rw [Run.block_handled, htransform]
      rfl
    · have hparam := b.named?_bindItem hkey
        (itemSelector (parentOf p.store b₀) (childOf a.engagement.config p.store b₀) n)
      have hfilled : Mapping.named? (Template.interpolateAll m.progress.store _) key = _ :=
        (Template.named?_interpolateAll _ _ _).trans (congrArg _ hparam)
      refine ⟨hfilled, fun hself => hfilled.trans ?_⟩
      have hfill := Template.fill_eq_self fun t ht => (Template.stands_iff.1 (hself t ht)).symm
      rw [Option.map_some, Template.interpolate, hfill]

/-- A browser whose pages have one item of whatever is asked for, and nothing else. -/
def oneItem : Host Unit Rat where
  create _ _ _ w := .done w [] (.error .wrongType)
  update _ _ _ w := .done w [] (.ok ())
  get _ _ w := .done w [] (.error .wrongType)
  reload _ _ w := .done w [] (.ok ())
  remove _ _ w := .done w [] (.ok ())
  query _ _ _ w := .done w [] (.ok [])
  capture _ _ w := .done w [] (.ok .null)
  awaitLoad _ _ w := .done w [] (.ok ())
  perform _ _ _ _ w := .done w [] (.ok (some (.ofData (.int 1))))
  arrivals _ w := (w, [])

def keepItems (container : String) : Flow where
  name := "items"
  blocks := [
    { type := .text "for_each", params := [(.text "selector", .text container)] },
    { type := .text "set_variable"
      params := [(.text "variable", .text "got"), (.text "value", itemMark)] }]

def keeping : Assignment := ⟨keepItems "ul", {}, none⟩

/-- The variables after such a for-each over the one item of a page. -/
def keptItems (container : String) (store : Store) : Store :=
  (forEach ⟨keepItems container, {}, none⟩ 0 (some (.number 1)) oneItem [] ⟨(), 0, {}⟩
    { store := store }).2.2.store

theorem not_items_verbatim :
    ¬ ∀ (container : String) (store : Store),
      (keptItems container store).get? "got" =
        (keptItems container store).get? Variables.itemSelectorName := by
  intro hsame
  have hget := hsame "$\x7bbox\x7d" [("box", .text "ul[data-q=\"2*n\"]"), ("n", .text "7")]
  exact absurd hget (by decide)

end Repeater

end BrowserFlow
