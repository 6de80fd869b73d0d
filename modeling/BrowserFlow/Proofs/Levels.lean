import BrowserFlow.Proofs.Detached
import BrowserFlow.Run.Engine

/-!
The levels of a run, each by one equation: what a report does, the two parts of a repeater (what
it fixes beforehand and its passes), and one step of a pass, of the passes, of a unit and of the
scan.
-/
namespace BrowserFlow
set_option autoImplicit false

variable {W T : Type}

/-! ## Reports and changes of the progress -/

namespace Progress

def reporting (p : Progress T) (status : RunStatus) (t : T) : Progress T :=
  { p with events := p.events ++ [⟨status, p.position, t⟩] }

def reaching (p : Progress T) (index : Nat) : Progress T :=
  { p with position := some index, reached := p.reached + 1 }

/-- The progress when nothing is to be left out any more. -/
def settled (p : Progress T) : Progress T := { p with skips := 0 }

end Progress

namespace Run

/-- The scene after a report was delivered; its receiver may have asked for a stop. -/
def heard (a : Assignment) (status : RunStatus) (s : Scene W T) : Scene W T :=
  match a.sink with
  | some sink => if (sink status).stops then { s with control := s.control.receive .stop } else s
  | none => s

theorem heard_now (a : Assignment) (status : RunStatus) (s : Scene W T) :
    (heard a status s).now = s.now := by
  unfold heard
  split
  · split <;> rfl
  · rfl

theorem heard_world (a : Assignment) (status : RunStatus) (s : Scene W T) :
    (heard a status s).world = s.world := by
  unfold heard
  split
  · split <;> rfl
  · rfl

def unitStatus (a : Assignment) (b : Block) (reached : Nat) : RunStatus :=
  statusOf a.flow reached .running ((Display.ofTag b.type).title ++ " running...") none
    (some (Display.ofTag b.type).icon)

def openingStatus (a : Assignment) (reached : Nat) : RunStatus :=
  statusOf a.flow reached .running ("Starting \"" ++ a.flow.name ++ "\"...") none none

/-- The report of a run without a failure: all enabled blocks count as reached. -/
def completedStatus (a : Assignment) : RunStatus :=
  statusOf a.flow a.flow.enabledCount .completed ("✅ \"" ++ a.flow.name ++ "\" completed") none none

def errorStatus (a : Assignment) (f : Fault) (reached : Nat) : RunStatus :=
  statusOf a.flow reached .error ("❌ Error: " ++ f.message) (some f.message) none

variable {a : Assignment} {h : Host W T} {ds : List T} {s : Scene W T} {p : Progress T}

theorem emit_apply (state : RunState) (message : String) (error icon : Option String) :
    emit a state message error icon h ds s p =
      (.done (statusOf a.flow p.reached state message error icon),
        heard a (statusOf a.flow p.reached state message error icon) s,
        p.reporting (statusOf a.flow p.reached state message error icon) s.now) := by
  unfold emit heard
  cases a.sink with
  | none => rfl
  | some sink =>
    simp only [Activity.get_bind, Activity.now_bind, Activity.modify_bind]
    split <;> rfl

theorem announce_apply (message : String) (icon : Option String) :
    announce a message icon h ds s p =
      (.done (), heard a (statusOf a.flow p.reached .running message none icon) s,
        p.reporting (statusOf a.flow p.reached .running message none icon) s.now) :=
  Activity.bind_done (emit_apply ..)

end Run

variable [Clock T]

/-! ## Repeaters in two parts -/

namespace Repeater

/-- How the passes of a repeater begin: what they bind, how they are announced, and how their
blocks are changed. -/
structure Rounds where
  bind : Nat → Store → Store
  message : Nat → String
  icon : String
  transform : Nat → Block → Block

def Rounds.status (ρ : Rounds) (a : Assignment) (n reached : Nat) : RunStatus :=
  Run.statusOf a.flow reached .running (ρ.message n) none (some ρ.icon)

/-- The progress when the variables of a pass are bound. -/
def Rounds.bound (ρ : Rounds) (n : Nat) (p : Progress T) : Progress T :=
  { p with store := ρ.bind n p.store }

def Rounds.plan (ρ : Rounds) (a : Assignment) : Plan W T where
  start n := do
    Activity.modify (ρ.bound n)
    Run.announce a (ρ.message n) (some ρ.icon)
  transform := ρ.transform

omit [Clock T] in
theorem Rounds.start_apply (ρ : Rounds) (a : Assignment) (n : Nat) (h : Host W T) (ds : List T)
    (s : Scene W T) (p : Progress T) :
    (ρ.plan a).start n h ds s p =
      (.done (), Run.heard a (ρ.status a n p.reached) s,
        (ρ.bound n p).reporting (ρ.status a n p.reached) s.now) := by
  show (Activity.modify (ρ.bound n) >>= fun _ => Run.announce a (ρ.message n) (some ρ.icon))
    h ds s p
    = _
  rw [Activity.modify_bind, Run.announce_apply]
  rfl

def Rounds.ofLoop (b : Block) (count : Nat) : Rounds where
  bind n store := store.set Variables.iterationName (.int n)
  message n := progressText "🔁" "Loop" n count
  icon := Repeater.icon b
  transform _ b := b

def Rounds.ofItems (b : Block) (parent child : String) (count : Nat) : Rounds where
  bind n store := (store.set Variables.indexName (.int n)).set
    Variables.itemSelectorName (.text (itemSelector parent child n))
  message n := progressText "🔄" "For each" n count
  icon := Repeater.icon b
  transform n b := b.bindItem (itemSelector parent child n)

/-- What a repeater fixes before its first pass. -/
structure Setup where
  rounds : Rounds
  count : Nat
  range : BodyRange

def Setup.run (u : Setup) (a : Assignment) (tab : TabRef) : Run W T RepeaterResult := do
  let r ← passes a (u.rounds.plan a) (u.range.select a.flow.blocks) 0 u.count tab
  pure ⟨r.1, u.range.lastIndex, r.2⟩

def loopSetup (a : Assignment) (index : Nat) : Run W T Setup :=
  match a.flow.blocks[index]? with
  | none => Activity.fail .missingIndex
  | some b => do
    let params := Template.interpolateAll (← Run.store) b.params
    let count ← Activity.ofExcept (loopCount a.engagement.config (Mapping.named params "count"))
    let range ← Activity.ofExcept (BodyRange.ofRepeater a.flow.blocks index)
    pure ⟨.ofLoop b count.toNat, count.toNat, range⟩

def forEachSetup (a : Assignment) (index : Nat) (tab : TabRef) : Run W T Setup :=
  if tab.isNone then Activity.fail .noTabForItems
  else
    match a.flow.blocks[index]? with
    | none => Activity.fail .missingIndex
    | some b => do
      let params := Template.interpolateAll (← Run.store) b.params
      let parent := Step.textOf (Mapping.named params "selector")
      let chosen := Step.textOf (Mapping.named params "child_selector")
      let child := if chosen = "" then a.engagement.config.defaultChildSelector else chosen
      let count ← (itemCount a.engagement tab parent child).lift
      let range ← Activity.ofExcept (BodyRange.ofRepeater a.flow.blocks index)
      pure ⟨.ofItems b parent child count, count, range⟩

theorem loop_eq (a : Assignment) (index : Nat) (tab : TabRef) :
    (loop a index tab : Run W T RepeaterResult) = loopSetup a index >>= fun u => u.run a tab := by
  unfold loop loopSetup
  cases a.flow.blocks[index]? with
  | none => rfl
  | some b =>
    simp only [Activity.bind_assoc, Activity.pure_bind]
    rfl

theorem forEach_eq (a : Assignment) (index : Nat) (tab : TabRef) :
    (forEach a index tab : Run W T RepeaterResult) =
      forEachSetup a index tab >>= fun u => u.run a tab := by
  unfold forEach forEachSetup
  split
  · rfl
  · cases a.flow.blocks[index]? with
    | none => rfl
    | some b =>
      simp only [Activity.bind_assoc, Activity.pure_bind]
      rfl

/-- The preparation of a repeater; no other block has one. -/
def setup? (a : Assignment) (b : Block) (index : Nat) (tab : TabRef) : Option (Run W T Setup) :=
  match b.kind? with
  | some .loop => some (loopSetup a index)
  | some .forEach => some (forEachSetup a index tab)
  | _ => none

theorem setup?_eq_none {a : Assignment} {b : Block} {index : Nat} {tab : TabRef} :
    (setup? a b index tab : Option (Run W T Setup)) = none ↔ b.isRepeater = false := by
  unfold setup? Block.isRepeater
  cases hk : b.kind? with
  | none => simp
  | some k => cases k <;> simp [BlockKind.isRepeater]

omit [Clock T] in
theorem store_keeps : Activity.Changes Eq (Run.store : Run W T Store) :=
  fun _ _ _ _ => rfl

section Keeps
variable {a : Assignment}

omit [Clock T] in
theorem bind_keeps {α β : Type} {x : Run W T α} {f : α → Run W T β} (hx : Activity.Changes Eq x)
    (hf : ∀ a, Activity.Changes Eq (f a)) : Activity.Changes Eq (x >>= f) :=
  Activity.Changes.bind (R := Eq) (fun _ _ _ => Eq.trans) hx hf

omit [Clock T] in
theorem loopSetup_keeps (index : Nat) :
    Activity.Changes Eq (loopSetup a index : Run W T Setup) := by
  unfold loopSetup
  split
  · exact .fail (fun _ => rfl) _
  · refine bind_keeps store_keeps fun store => ?_
    refine bind_keeps (.ofExcept (fun _ => rfl) _) fun count => ?_
    exact bind_keeps (.ofExcept (fun _ => rfl) _) fun range => .pure (fun _ => rfl) _

theorem forEachSetup_keeps (index : Nat) (tab : TabRef) :
    Activity.Changes Eq (forEachSetup a index tab : Run W T Setup) := by
  unfold forEachSetup
  refine .ite (.fail (fun _ => rfl) _) ?_
  split
  · exact .fail (fun _ => rfl) _
  · refine bind_keeps store_keeps fun store => bind_keeps (.lift (fun _ => rfl) _) fun count => ?_
    exact bind_keeps (.ofExcept (fun _ => rfl) _) fun range => .pure (fun _ => rfl) _

/-- A preparation leaves the progress as it is. -/
theorem setup?_keeps {b : Block} {index : Nat} {tab : TabRef} {prep : Run W T Setup}
    (hs : setup? a b index tab = some prep) : Activity.Changes Eq prep := by
  unfold setup? at hs
  split at hs
  · cases hs
    exact loopSetup_keeps index
  · cases hs
    exact forEachSetup_keeps index tab
  · cases hs

end Keeps

end Repeater

theorem Activity.Closed.itemCount {W' : Type} {counting removing : Prop}
    {R : ⦃P α : Type⦄ → Activity W T P α → Activity W' T P α → Prop}
    (hR : Activity.Closed counting removing R) (hc : counting) (e : Engagement) (tab : TabRef)
    (parent child : String) :
    R (Repeater.itemCount e tab parent child : Errand W T Nat)
      (Repeater.itemCount e tab parent child) := by
  refine hR.bind (hR.query e tab (fun _ => hc) _) fun r => hR.bind (hR.ofExcept _) fun n => ?_
  cases n with
  | none => exact hR.fail _
  | some n => exact Closed.ite (hR.fail _) (hR.pure _)

namespace Activity.Composed
open Closed (ite)
variable {W' : Type} {counting removing : Prop}
  {R : ⦃P α : Type⦄ → Activity W T P α → Activity W' T P α → Prop} {a : Assignment}
  (hR : Composed counting removing a.engagement.config.elementPollMs R)
include hR

/-- The preparation of a loop is put together as blocks are. -/
theorem loopSetup (index : Nat) :
    R (Repeater.loopSetup a index : Run W T Repeater.Setup) (Repeater.loopSetup a index) := by
  unfold Repeater.loopSetup
  split
  · exact hR.fail _
  · refine hR.bind hR.store fun store => hR.bind (hR.ofExcept _) fun count => ?_
    exact hR.bind (hR.ofExcept _) fun range => hR.pure _

/-- So is that of a for-each, but it counts. -/
theorem forEachSetup (hc : counting) (index : Nat) (tab : TabRef) :
    R (Repeater.forEachSetup a index tab : Run W T Repeater.Setup)
      (Repeater.forEachSetup a index tab) := by
  unfold Repeater.forEachSetup
  refine ite (hR.fail _) ?_
  split
  · exact hR.fail _
  · refine hR.bind hR.store fun store => hR.bind (hR.lift (hR.itemCount hc _ tab _ _)) fun n => ?_
    exact hR.bind (hR.ofExcept _) fun range => hR.pure _

omit hR in
/-- So is every preparation. -/
theorem setup {R : ⦃P α : Type⦄ → Activity W T P α → Activity W T P α → Prop}
    (hR : Composed True removing a.engagement.config.elementPollMs R) {b : Block} {index : Nat}
    {tab : TabRef} {prep : Run W T Repeater.Setup}
    (hs : Repeater.setup? a b index tab = some prep) : R prep prep := by
  unfold Repeater.setup? at hs
  split at hs
  · cases hs
    exact hR.loopSetup index
  · cases hs
    exact hR.forEachSetup trivial index tab
  · cases hs

end Activity.Composed

namespace Repeater

/-- A preparation does not look at requests. -/
theorem setup?_detached {a : Assignment} {b : Block} {index : Nat} {tab : TabRef}
    {prep : Run W T Setup} (hs : setup? a b index tab = some prep) :
    Activity.Detached prep := by
  have hR : Activity.Composed True True a.engagement.config.elementPollMs
      fun P α (x x' : Activity W T P α) => Activity.Alike False x x' :=
    Activity.Alike.composed False _
  exact (hR.setup hs).detached

/-- A preparation that succeeds has found a body that is not empty. -/
theorem setup?_range {a : Assignment} {b : Block} {index : Nat} {tab : TabRef}
    {prep : Run W T Setup} (hs : setup? a b index tab = some prep) :
    Activity.Gives (fun u => BodyRange.ofRepeater a.flow.blocks index = .ok u.range) prep := by
  unfold setup? at hs
  split at hs
  · cases hs
    unfold loopSetup
    split
    · exact .fail _
    · refine .bind fun store => .bind fun count => ?_
      exact .ofExcept_bind fun range hr => .pure hr
  · cases hs
    unfold forEachSetup
    refine .ite (.fail _) ?_
    split
    · exact .fail _
    · refine .bind fun store => .bind fun count => ?_
      exact .ofExcept_bind fun range hr => .pure hr
  · cases hs

end Repeater

theorem Run.block_uniform {l : Prop} (a : Assignment) (b : Block) (tab : TabRef) :
    Activity.Uniform l fun W => (block a b tab : Run W T TabRef) :=
  fun _ _ => (Activity.Alike.composed _ _).block trivial b tab

/-- No block looks at requests; a stop does not reach inside one. -/
theorem Run.block_detached (a : Assignment) (b : Block) (tab : TabRef) :
    Activity.Detached (block a b tab : Run W T TabRef) :=
  (block_uniform a b tab W W).detached

/-! ## One step of each level -/

section Steps
variable {a : Assignment} {h : Host W T} {ds : List T} {s : Scene W T} {p : Progress T}

theorem Repeater.blocks_cons (f : Block → Block) (b : Block) (rest : List Block) (tab : TabRef) :
    blocks a f (b :: rest) tab h ds s p =
      if s.control.stopped then (.done tab, s, p)
      else if !b.enabled then blocks a f rest tab h ds s p
      else if 0 < p.skips then blocks a f rest tab h ds s { p with skips := p.skips - 1 }
      else (Run.block a (f b) tab >>= blocks a f rest) h ds s p := by
  rw [blocks, Activity.stopped_bind]
  split
  · rfl
  · split
    · rfl
    · rw [Activity.get_bind]
      split <;> rfl

theorem Repeater.passes_succ (ρ : Rounds) (body : List Block) (done left : Nat) (tab : TabRef) :
    passes a (ρ.plan a) body done (left + 1) tab h ds s p =
      if s.control.stopped then (.done (tab, done), s, p)
      else
        (pass a (ρ.transform (done + 1)) body tab >>= fun tab => do
          if ← Activity.stopped then pure (tab, done)
          else passes a (ρ.plan a) body (done + 1) left tab) h ds
          (Run.heard a (ρ.status a (done + 1) p.reached) s)
          ((ρ.bound (done + 1) p).reporting (ρ.status a (done + 1) p.reached) s.now) := by
  rw [passes, Activity.stopped_bind]
  split
  · rfl
  · rw [Activity.bind_done (ρ.start_apply ..)]
    rfl

theorem Run.unit_eq (index : Nat) (b : Block) (tab : TabRef) :
    (unit a index b tab : Run W T (Nat × TabRef)) =
      match Repeater.setup? a b index tab with
      | some prep =>
        Activity.within a.engagement.config.blockTimeoutSec
          (.blockTimedOut a.engagement.config.blockTimeoutSec b.label)
          (prep >>= fun u => u.run a tab) >>= fun r => pure ((r.lastIndex + 1).toNat, r.tab)
      | none =>
        Activity.within a.engagement.config.blockTimeoutSec
          (.blockTimedOut a.engagement.config.blockTimeoutSec b.label)
          (block a b tab) >>= fun tab => pure (index + 1, tab) := by
  unfold unit Repeater.setup?
  cases b.kind? with
  | none => rfl
  | some k =>
    cases k with
    | loop => simp only [Repeater.loop_eq]
    | forEach => simp only [Repeater.forEach_eq]
    | _ => rfl

/-- A top-level block without its time limit, and the position that follows it. -/
def Run.unlimited (a : Assignment) (index : Nat) (b : Block) (tab : TabRef) :
    Run W T (Nat × TabRef) :=
  match Repeater.setup? a b index tab with
  | some prep => do
    let r ← prep >>= fun u => u.run a tab
    pure ((r.lastIndex + 1).toNat, r.tab)
  | none => do
    let tab ← block a b tab
    pure (index + 1, tab)

theorem Run.unit_eq_within (index : Nat) (b : Block) (tab : TabRef) :
    (unit a index b tab : Run W T (Nat × TabRef)) =
      Activity.within a.engagement.config.blockTimeoutSec
        (.blockTimedOut a.engagement.config.blockTimeoutSec b.label) (unlimited a index b tab) := by
  rw [unit_eq, unlimited]
  cases (Repeater.setup? a b index tab : Option (Run W T Repeater.Setup)) with
  | none => exact Activity.within_map ..
  | some prep => exact Activity.within_map ..

theorem Run.scanFrom_succ {fuel index : Nat} {b : Block} {tab : TabRef}
    (hb : a.flow.blocks[index]? = some b) :
    scanFrom a (fuel + 1) index tab h ds s p =
      if s.control.stopped then (.done tab, s, p)
      else if !b.enabled then scanFrom a fuel (index + 1) tab h ds s p
      else if 0 < p.skips then
        scanFrom a fuel (afterSkipped a.flow.blocks index b) tab h ds s
          { p.reaching index with skips := p.skips - 1 }
      else
        (unit a index b tab >>= fun r => scanFrom a fuel r.1 r.2) h ds
          (heard a (unitStatus a b (p.reached + 1)) s)
          ((p.reaching index).reporting (unitStatus a b (p.reached + 1)) s.now) := by
  rw [scanFrom, hb]
  simp only [Activity.stopped_bind]
  split
  · rfl
  · split
    · rfl
    · rw [Activity.modify_bind, Activity.get_bind]
      split
      · rfl
      · rw [Activity.bind_done (announce_apply ..)]
        rfl

theorem Run.scanFrom_end {fuel index : Nat} {tab : TabRef} (hi : a.flow.blocks.length ≤ index) :
    scanFrom a fuel index tab h ds s p = (.done tab, s, p) := by
  cases fuel with
  | zero => rfl
  | succ fuel => rw [scanFrom, List.getElem?_eq_none hi]; rfl

/-- The progress when all enabled blocks count as reached. -/
def Progress.completing (p : Progress T) (a : Assignment) : Progress T :=
  { p with reached := a.flow.enabledCount }

section Flow
variable {tab : TabRef} {s' : Scene W T} {p' : Progress T}

theorem Run.flow_of_done {tab' : TabRef}
    (hs : scan a tab h ds (heard a (openingStatus a p.reached) s)
      (p.reporting (openingStatus a p.reached) s.now) = (.done tab', s', p')) :
    flow a tab h ds s p =
      (.done (completedStatus a), heard a (completedStatus a) s',
        (p'.completing a).reporting (completedStatus a) s'.now) := by
  rw [flow, Activity.bind_done (announce_apply ..)]
  refine (Activity.bind_done (Activity.attempt_done hs)).trans ?_
  exact (Activity.modify_bind ..).trans (emit_apply ..)

theorem Run.flow_of_failed {f : Fault}
    (hs : scan a tab h ds (heard a (openingStatus a p.reached) s)
      (p.reporting (openingStatus a p.reached) s.now) = (.failed f, s', p')) :
    flow a tab h ds s p =
      (.done (errorStatus a f p'.reached), heard a (errorStatus a f p'.reached) s',
        p'.reporting (errorStatus a f p'.reached) s'.now) := by
  rw [flow, Activity.bind_done (announce_apply ..)]
  exact (Activity.bind_done (Activity.attempt_failed hs)).trans (emit_apply ..)

theorem Run.flow_of_lost {e : Halt} (he : ∀ f, e ≠ .failed f)
    (hs : scan a tab h ds (heard a (openingStatus a p.reached) s)
      (p.reporting (openingStatus a p.reached) s.now) = (e.outcome, s', p')) :
    flow a tab h ds s p = (e.outcome, s', p') := by
  rw [flow, Activity.bind_done (announce_apply ..)]
  cases e with
  | failed f => exact absurd rfl (he f)
  | expired k => exact Activity.bind_halt (e := .expired k) (Activity.attempt_expired hs)
  | endless => exact Activity.bind_halt (e := .endless) (Activity.attempt_endless hs)

end Flow
end Steps

end BrowserFlow
