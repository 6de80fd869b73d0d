import BrowserFlow.Proofs.Levels

/-!
Flows without positions. The blocks of a flow are read as units, each with the blocks that it
repeats, and a recursive interpreter runs a list of units: it drops from the list what a condition
leaves out, and runs a body only as part of its repeater.
-/
namespace BrowserFlow
set_option autoImplicit false

/-! ## Units -/

/-- A block at the top level with the blocks that it repeats. -/
structure FlowUnit where
  position : Nat
  block : Block
  body : List Block

/-- The units of the blocks from a position on. A disabled block is none; an enabled repeater owns
the blocks up to the next repeater, and any other enabled block stands for itself. -/
def FlowUnit.read (index : Nat) (blocks : List Block) : List FlowUnit :=
  match blocks with
  | [] => []
  | b :: rest =>
    if !b.enabled then read (index + 1) rest
    else if b.isRepeater then
      ⟨index, b, rest.takeWhile (!·.isRepeater)⟩ ::
        read (index + 1 + (rest.takeWhile (!·.isRepeater)).length)
          (rest.dropWhile (!·.isRepeater))
    else ⟨index, b, []⟩ :: read (index + 1) rest
termination_by blocks.length
decreasing_by
  · exact Nat.lt_succ_self _
  · exact Nat.lt_succ_of_le (List.dropWhile_suffix _).length_le
  · exact Nat.lt_succ_self _

theorem FlowUnit.le_position {index : Nat} {blocks : List Block} {u : FlowUnit}
    (hu : u ∈ read index blocks) : index ≤ u.position := by
  induction index, blocks using read.induct with
  | case1 index =>
    rw [read] at hu
    cases hu
  | case2 index b rest he ih =>
    rw [read, if_pos he] at hu
    have hle := ih hu
    omega
  | case3 index b rest he hr ih =>
    rw [read, if_neg he, if_pos hr, List.mem_cons] at hu
    obtain rfl | hu := hu
    · exact Nat.le_refl _
    · have hle := ih hu
      omega
  | case4 index b rest he hr ih =>
    rw [read, if_neg he, if_neg hr, List.mem_cons] at hu
    obtain rfl | hu := hu
    · exact Nat.le_refl _
    · have hle := ih hu
      omega

/-- No two units share a block, and they stand in the order of the flow. -/
theorem FlowUnit.read_pairwise (index : Nat) (blocks : List Block) :
    (read index blocks).Pairwise fun u v => u.position + u.body.length < v.position := by
  induction index, blocks using read.induct with
  | case1 index =>
    rw [read]
    exact .nil
  | case2 index b rest he ih =>
    rw [read, if_pos he]
    exact ih
  | case3 index b rest he hr ih =>
    rw [read, if_neg he, if_pos hr]
    refine List.pairwise_cons.2 ⟨fun v hv => ?_, ih⟩
    have hle := le_position hv
    dsimp only
    omega
  | case4 index b rest he hr ih =>
    rw [read, if_neg he, if_neg hr]
    refine List.pairwise_cons.2 ⟨fun v hv => ?_, ih⟩
    exact le_position hv

/-- A unit stands for an enabled block at its position. -/
theorem FlowUnit.block_eq {index : Nat} {blocks : List Block} {u : FlowUnit}
    (hu : u ∈ read index blocks) :
    ∃ k, u.position = index + k ∧ blocks[k]? = some u.block ∧ u.block.enabled = true := by
  induction index, blocks using read.induct with
  | case1 index =>
    rw [read] at hu
    cases hu
  | case2 index b rest he ih =>
    rw [read, if_pos he] at hu
    obtain ⟨k, hk, hb⟩ := ih hu
    exact ⟨k + 1, by omega, hb⟩
  | case3 index b rest he hr ih =>
    rw [read, if_neg he, if_pos hr, List.mem_cons] at hu
    obtain rfl | hu := hu
    · exact ⟨0, rfl, rfl, by simpa using he⟩
    · obtain ⟨k, hk, hb, hen⟩ := ih hu
      have hget : (rest.takeWhile (!·.isRepeater) ++ rest.dropWhile (!·.isRepeater))[
          (rest.takeWhile (!·.isRepeater)).length + k]? = some u.block := by
        rw [List.getElem?_append_right (Nat.le_add_right _ _), Nat.add_sub_cancel_left]
        exact hb
      rw [List.takeWhile_append_dropWhile] at hget
      exact ⟨(rest.takeWhile (!·.isRepeater)).length + k + 1, by omega, hget, hen⟩
  | case4 index b rest he hr ih =>
    rw [read, if_neg he, if_neg hr, List.mem_cons] at hu
    obtain rfl | hu := hu
    · exact ⟨0, rfl, rfl, by simpa using he⟩
    · obtain ⟨k, hk, hb⟩ := ih hu
      exact ⟨k + 1, by omega, hb⟩

/-! ## The interpreter -/

namespace Structured

variable {W T : Type} [Clock T] (a : Assignment)

/-- How many of the next ones a condition leaves out. -/
def pending : Run W T Nat := do
  let p ← Activity.get
  Activity.modify Progress.settled
  pure p.skips

/-- Runs blocks but the first `n`. -/
def pass (f : Block → Block) (n : Nat) (bs : List Block) (tab : TabRef) : Run W T TabRef := do
  if ← Activity.stopped then pure tab
  else
    match _h : bs.drop n with
    | [] => pure tab
    | b :: rest => do
      let tab ← Run.block a (f b) tab
      pass f (← pending) rest tab
termination_by bs.length
decreasing_by
  have hlen := congrArg List.length _h
  rw [List.length_drop, List.length_cons] at hlen
  omega

/-- Runs the enabled blocks of a body once for each number. -/
def passes (ρ : Repeater.Rounds) (body : List Block) : List Nat → TabRef → Run W T TabRef
  | [], tab => pure tab
  | n :: ns, tab => do
    if ← Activity.stopped then pure tab
    else do
      Activity.modify (ρ.bound n)
      Run.announce a (ρ.message n) (some ρ.icon)
      let tab ← (pass a (ρ.transform n) 0 (body.filter (·.enabled)) tab).ensuring Progress.settled
      passes ρ body ns tab

/-- The passes of a repeater over its body, which must not be empty. -/
def repetition (ρ : Repeater.Rounds) (count : Nat) (u : FlowUnit) (tab : TabRef) :
    Run W T TabRef :=
  if u.body.isEmpty then Activity.fail (.emptyBody u.block.label)
  else passes a ρ u.body (List.range' 1 count) tab

def loop (u : FlowUnit) (tab : TabRef) : Run W T TabRef := do
  let params := Template.interpolateAll (← Run.store) u.block.params
  let count ← Activity.ofExcept
    (Repeater.loopCount a.engagement.config (Mapping.named params "count"))
  repetition a (.ofLoop u.block count.toNat) count.toNat u tab

def forEach (u : FlowUnit) (tab : TabRef) : Run W T TabRef :=
  if tab.isNone then Activity.fail .noTabForItems
  else do
    let params := Template.interpolateAll (← Run.store) u.block.params
    let parent := Step.textOf (Mapping.named params "selector")
    let chosen := Step.textOf (Mapping.named params "child_selector")
    let child := if chosen = "" then a.engagement.config.defaultChildSelector else chosen
    let count ← (Repeater.itemCount a.engagement tab parent child).lift
    repetition a (.ofItems u.block parent child count) count u tab

def unit (u : FlowUnit) (tab : TabRef) : Run W T TabRef :=
  Activity.within a.engagement.config.blockTimeoutSec
    (.blockTimedOut a.engagement.config.blockTimeoutSec u.block.label)
    (match u.block.kind? with
      | some .loop => loop a u tab
      | some .forEach => forEach a u tab
      | _ => Run.block a u.block tab)

/-- Runs units but the first `n`, which only count as reached. -/
def run (n : Nat) (us : List FlowUnit) (tab : TabRef) : Run W T TabRef := do
  if ← Activity.stopped then pure tab
  else do
    Activity.modify fun p => (us.take n).foldl (fun p u => p.reaching u.position) p
    match _h : us.drop n with
    | [] => pure tab
    | u :: rest => do
      Activity.modify (·.reaching u.position)
      let shown := Display.ofTag u.block.type
      Run.announce a (shown.title ++ " running...") (some shown.icon)
      let tab ← unit a u tab
      run (← pending) rest tab
termination_by us.length
decreasing_by
  have hlen := congrArg List.length _h
  rw [List.length_drop, List.length_cons] at hlen
  omega

/-! ## Equations -/

section Equations
variable {a : Assignment} {f : Block → Block} {n : Nat} {tab : TabRef} {h : Host W T} {ds : List T}
  {s : Scene W T} {p : Progress T}

omit [Clock T] in
theorem pending_bind {α : Type} (k : Nat → Run W T α) :
    ((pending : Run W T Nat) >>= k) h ds s p = k p.skips h ds s p.settled := rfl

theorem pass_over (bs : List Block) (hd : bs.drop n = []) :
    pass a f n bs tab h ds s p = (.done tab, s, p) := by
  rw [pass, Activity.stopped_bind]
  split
  · rfl
  · generalize bs.drop n = l at hd
    subst hd
    rfl

theorem pass_stopped {bs : List Block} (hs : s.control.stopped = true) :
    pass a f n bs tab h ds s p = (.done tab, s, p) := by
  rw [pass, Activity.stopped_bind, if_pos hs]
  rfl

theorem pass_next {b : Block} {bs : List Block} (rest : List Block)
    (hs : s.control.stopped = false)
    (hd : bs.drop n = b :: rest) :
    pass a f n bs tab h ds s p =
      (Run.block a (f b) tab >>= fun tab => pending >>= fun n => pass a f n rest tab) h ds s p := by
  rw [pass, Activity.stopped_bind, if_neg (by simp [hs])]
  generalize bs.drop n = l at hd
  subst hd
  rfl

theorem pass_leaveOut (b : Block) (bs : List Block) :
    (pass a f (n + 1) (b :: bs) : TabRef → Run W T TabRef) = pass a f n bs := by
  funext tab
  rw [pass, pass]
  rfl

theorem pass_drop (bs : List Block) :
    (pass a f n bs tab : Run W T TabRef) = pass a f 0 (bs.drop n) tab := by
  rw [pass, pass]
  rfl

theorem passes_stopped {ρ : Repeater.Rounds} {body : List Block} {ns : List Nat}
    (hs : s.control.stopped = true) : passes a ρ body ns tab h ds s p = (.done tab, s, p) := by
  cases ns with
  | nil => rfl
  | cons n ns =>
    rw [passes, Activity.stopped_bind, if_pos hs]
    rfl

theorem passes_next {ρ : Repeater.Rounds} {body : List Block} {ns : List Nat}
    (hs : s.control.stopped = false) :
    passes a ρ body (n :: ns) tab h ds s p =
      ((pass a (ρ.transform n) 0 (body.filter (·.enabled)) tab).ensuring Progress.settled >>=
        passes a ρ body ns) h ds (Run.heard a (ρ.status a n p.reached) s)
        ((ρ.bound n p).reporting (ρ.status a n p.reached) s.now) := by
  rw [passes, Activity.stopped_bind, if_neg (by simp [hs])]
  exact Activity.bind_done (ρ.start_apply ..)

theorem run_stopped {us : List FlowUnit} (hs : s.control.stopped = true) :
    run a n us tab h ds s p = (.done tab, s, p) := by
  rw [run, Activity.stopped_bind, if_pos hs]
  rfl

theorem run_nil : run a n [] tab h ds s p = (.done tab, s, p) := by
  rw [run, Activity.stopped_bind]
  split
  · rfl
  · have hd : ([] : List FlowUnit).drop n = [] := List.drop_nil
    rw [Activity.modify_bind, List.take_nil]
    generalize ([] : List FlowUnit).drop n = l at hd
    subst hd
    rfl

theorem run_next {u : FlowUnit} {us : List FlowUnit} (hs : s.control.stopped = false) :
    run a 0 (u :: us) tab h ds s p =
      (unit a u tab >>= fun tab => pending >>= fun n => run a n us tab) h ds
        (Run.heard a (Run.unitStatus a u.block (p.reached + 1)) s)
        ((p.reaching u.position).reporting (Run.unitStatus a u.block (p.reached + 1)) s.now) := by
  rw [run, Activity.stopped_bind, if_neg (by simp [hs])]
  exact Activity.bind_done (Run.announce_apply ..)

theorem run_done {u : FlowUnit} {us : List FlowUnit} {tab' : TabRef} {s' : Scene W T}
    {p' : Progress T} (hs : s.control.stopped = false)
    (hu : unit a u tab h ds (Run.heard a (Run.unitStatus a u.block (p.reached + 1)) s)
      ((p.reaching u.position).reporting (Run.unitStatus a u.block (p.reached + 1)) s.now) =
        (.done tab', s', p')) :
    run a 0 (u :: us) tab h ds s p = run a p'.skips us tab' h ds s' p'.settled := by
  rw [run_next hs, Activity.bind_done hu, pending_bind]

theorem run_halt {u : FlowUnit} {us : List FlowUnit} {e : Halt} {s' : Scene W T}
    {p' : Progress T} (hs : s.control.stopped = false)
    (hu : unit a u tab h ds (Run.heard a (Run.unitStatus a u.block (p.reached + 1)) s)
      ((p.reaching u.position).reporting (Run.unitStatus a u.block (p.reached + 1)) s.now) =
        (e.outcome, s', p')) :
    run a 0 (u :: us) tab h ds s p = (e.outcome, s', p') := by
  rw [run_next hs, Activity.bind_halt hu]

theorem run_leaveOut {u : FlowUnit} {us : List FlowUnit} (hs : s.control.stopped = false) :
    run a (n + 1) (u :: us) tab h ds s p = run a n us tab h ds s (p.reaching u.position) := by
  rw [run, run, Activity.stopped_bind, Activity.stopped_bind, if_neg (by simp [hs]),
    if_neg (by simp [hs])]
  rfl

end Equations

end Structured

end BrowserFlow
