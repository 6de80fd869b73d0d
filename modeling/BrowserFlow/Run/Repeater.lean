import BrowserFlow.Flow.Body
import BrowserFlow.Run.Progress

/-!
Repeaters: a loop runs its body a number of times, a for-each once for every item of a list on the
page. The number of passes is fixed before the first one.
-/
namespace BrowserFlow
set_option autoImplicit false

/-- What a repeater leaves behind. -/
structure RepeaterResult where
  tab : TabRef
  /-- The last block of the body; the run goes on after it. -/
  lastIndex : Int
  /-- How many passes were completed. -/
  passes : Nat
  deriving DecidableEq, Inhabited

/-- The parameter value that stands for the current item. -/
def itemMark : Value := .text "*item"

/-- A block with every parameter that is the item mark replaced by a selector. -/
def Block.bindItem (b : Block) (selector : String) : Block :=
  { b with params := b.params.map fun e => (e.1, if e.2 = itemMark then .text selector else e.2) }

namespace Repeater

variable {W T : Type} [Clock T]

/-- Runs the blocks of a pass. A stop ends the pass; blocks that a condition leaves out are
counted among the enabled ones. -/
def blocks (a : Assignment) (transform : Block → Block) : List Block → TabRef → Run W T TabRef
  | [], tab => pure tab
  | b :: rest, tab => do
    if ← Activity.stopped then pure tab
    else if !b.enabled then blocks a transform rest tab
    else do
      let p ← Activity.get
      if 0 < p.skips then do
        Activity.modify fun p => { p with skips := p.skips - 1 }
        blocks a transform rest tab
      else do
        let tab ← Run.block a (transform b) tab
        blocks a transform rest tab

/-- One pass. What a condition leaves out ends with the pass. -/
def pass (a : Assignment) (transform : Block → Block) (body : List Block) (tab : TabRef) :
    Run W T TabRef :=
  (blocks a transform body tab).ensuring fun p => { p with skips := 0 }

/-- How a repeater begins a pass and what it does to the blocks of it. -/
structure Plan (W T : Type) where
  start : Nat → Run W T Unit
  transform : Nat → Block → Block

/-- Runs passes, `left` of them, after `done` were completed. -/
def passes (a : Assignment) (plan : Plan W T) (body : List Block) (done : Nat) :
    Nat → TabRef → Run W T (TabRef × Nat)
  | 0, tab => pure (tab, done)
  | left + 1, tab => do
    if ← Activity.stopped then pure (tab, done)
    else do
      plan.start (done + 1)
      let tab ← pass a (plan.transform (done + 1)) body tab
      if ← Activity.stopped then pure (tab, done)
      else passes a plan body (done + 1) left tab

/-- How a pass is announced. -/
def progressText (icon title : String) (n count : Nat) : String :=
  icon ++ " " ++ title ++ " " ++ toString n ++ "/" ++ toString count ++ "..."

/-- The icon that a block is announced with. -/
def icon (b : Block) : String := (Display.ofTag b.type).icon

/-- How many passes a loop has: its count, or the default when that is not usable. -/
def loopCount (c : Config) (raw : Value) : Except Fault Int := do
  let n ← Parameter.int? raw (some c.defaultLoopCount)
  match n with
  | some n => pure (if n < 1 then c.defaultLoopCount else n)
  | none => pure c.defaultLoopCount

/-- Runs the loop at a position. -/
def loop (a : Assignment) (index : Nat) (tab : TabRef) : Run W T RepeaterResult := do
  match a.flow.blocks[index]? with
  | none => Activity.fail .missingIndex
  | some b => do
    let params := Template.interpolateAll (← Run.store) b.params
    let count ← Activity.ofExcept (loopCount a.engagement.config (Mapping.named params "count"))
    let range ← Activity.ofExcept (BodyRange.ofRepeater a.flow.blocks index)
    let plan : Plan W T := {
      start := fun n => do
        Run.setVariable Variables.iterationName (.int n)
        Run.announce a (progressText "🔁" "Loop" n count.toNat) (some (icon b))
      transform := fun _ b => b }
    let (tab, done) ← passes a plan (range.select a.flow.blocks) 0 count.toNat tab
    pure ⟨tab, range.lastIndex, done⟩

/-- How many items the page has, asked for once. -/
def itemCount (e : Engagement) (tab : TabRef) (parent child : String) :
    Errand W T Nat := do
  let r ← Dispatch.query e tab .count
    [(.text "selector", .text parent), (.text "child_selector", .text child)]
  match ← Activity.ofExcept (Parameter.int? r.data none) with
  | none => Activity.fail (.uncountable parent child)
  | some n => if n ≤ 0 then Activity.fail (.noItems parent child) else pure n.toNat

/-- The selector of an item. -/
def itemSelector (parent child : String) (n : Nat) : String :=
  parent ++ " > " ++ child ++ ":nth-child(" ++ toString n ++ ")"

/-- Runs the for-each at a position. -/
def forEach (a : Assignment) (index : Nat) (tab : TabRef) : Run W T RepeaterResult := do
  if tab.isNone then Activity.fail .noTabForItems
  else
    match a.flow.blocks[index]? with
    | none => Activity.fail .missingIndex
    | some b => do
      let params := Template.interpolateAll (← Run.store) b.params
      let parent := Step.textOf (Mapping.named params "selector")
      let chosen := Step.textOf (Mapping.named params "child_selector")
      let child := if chosen = "" then a.engagement.config.defaultChildSelector else chosen
      let count ← (itemCount a.engagement tab parent child).lift
      let range ← Activity.ofExcept (BodyRange.ofRepeater a.flow.blocks index)
      let plan : Plan W T := {
        start := fun n => do
          Run.setVariable Variables.indexName (.int n)
          Run.setVariable Variables.itemSelectorName (.text (itemSelector parent child n))
          Run.announce a (progressText "🔄" "For each" n count) (some (icon b))
        transform := fun n b => b.bindItem (itemSelector parent child n) }
      let (tab, done) ← passes a plan (range.select a.flow.blocks) 0 count tab
      pure ⟨tab, range.lastIndex, done⟩

end Repeater

end BrowserFlow
