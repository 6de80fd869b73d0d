import BrowserFlow.Proofs.Levels

/-!
The course of a run: the moments at which it reaches a position, leaves a block out, reports,
starts a block or is over with it, enters a pass or leaves it, with the scene and the progress at
each.

* `Moment`: one deed of a run, with the state at it.
* `Course.Blocks`, `Course.Passes`, `Course.Repeater`, `Course.Unit`, `Course.Scan`, `Course.Flow`:
  the rules by which a run goes from moment to moment, one relation for each level.
* `Course.exists_flow`: every run has a course, which ends as the run does. What holds along every
  course is proved by induction on the rules.
-/
namespace BrowserFlow
set_option autoImplicit false

/-! ## Moments -/

inductive Scope where
  /-- At the top level, at a position of the flow. -/
  | top (index : Nat)
  /-- In the body of a repeater, in the pass with this number. -/
  | body (pass : Nat)
  deriving DecidableEq

inductive Topic where
  | opening
  /-- The top-level block at a position is about to start. -/
  | unit (index : Nat)
  /-- The pass with this number is about to begin. -/
  | pass (n : Nat)
  | closing
  deriving DecidableEq

inductive Deed where
  /-- It comes to an enabled top-level position. -/
  | reach (index : Nat)
  /-- It leaves out a block because a condition failed. -/
  | leaveOut (scope : Scope) (b : Block)
  | report (topic : Topic) (status : RunStatus)
  /-- It hands a block over to be run in a tab. -/
  | start (scope : Scope) (b : Block) (tab : TabRef)
  /-- The block is over. -/
  | finish (scope : Scope) (b : Block) (outcome : Outcome TabRef)
  | enter (pass : Nat)
  | leave (pass : Nat)

/-- A deed with the state at it: the state after it for the end of a block and of a pass, the
state before it for all others. -/
structure Moment (W T : Type) where
  deed : Deed
  scene : Scene W T
  progress : Progress T

variable {W T : Type} [Clock T]

abbrev Result (W T α : Type) : Type := Outcome α × Scene W T × Progress T

/-! ## Rules -/

section Rules
variable (a : Assignment) (h : Host W T)

inductive Course.Blocks (n : Nat) (f : Block → Block) (ds : List T) :
    List Block → TabRef → Scene W T → Progress T → List (Moment W T) → Result W T TabRef → Prop
  | nil {tab s p} : Blocks n f ds [] tab s p [] (.done tab, s, p)
  | stopped {b rest tab s p} : s.control.stopped = true →
      Blocks n f ds (b :: rest) tab s p [] (.done tab, s, p)
  | disabled {b rest tab s p ms r} : s.control.stopped = false → b.enabled = false →
      Blocks n f ds rest tab s p ms r → Blocks n f ds (b :: rest) tab s p ms r
  | leftOut {b rest tab s p ms r} : s.control.stopped = false → b.enabled = true → 0 < p.skips →
      Blocks n f ds rest tab s { p with skips := p.skips - 1 } ms r →
      Blocks n f ds (b :: rest) tab s p (⟨.leaveOut (.body n) b, s, p⟩ :: ms) r
  | broke {b rest tab s p s' p'} {e : Halt} : s.control.stopped = false → b.enabled = true →
      p.skips = 0 → Run.block a (f b) tab h ds s p = (e.outcome, s', p') →
      Blocks n f ds (b :: rest) tab s p
        [⟨.start (.body n) (f b) tab, s, p⟩, ⟨.finish (.body n) (f b) e.outcome, s', p'⟩]
        (e.outcome, s', p')
  | ran {b rest tab s p tab' s' p' ms r} : s.control.stopped = false → b.enabled = true →
      p.skips = 0 → Run.block a (f b) tab h ds s p = (.done tab', s', p') →
      Blocks n f ds rest tab' s' p' ms r →
      Blocks n f ds (b :: rest) tab s p
        (⟨.start (.body n) (f b) tab, s, p⟩ ::
          ⟨.finish (.body n) (f b) (.done tab'), s', p'⟩ :: ms) r

/-- How a pass begins: its variables are bound, it is reported, and then it is entered. -/
def Repeater.Rounds.head (ρ : Repeater.Rounds) (n : Nat) (s : Scene W T) (p : Progress T) :
    List (Moment W T) :=
  [⟨.report (.pass n) (ρ.status a n p.reached), s, ρ.bound n p⟩,
    ⟨.enter n, Run.heard a (ρ.status a n p.reached) s,
      (ρ.bound n p).reporting (ρ.status a n p.reached) s.now⟩]

/-- The blocks of a pass, from the state in which it is entered. -/
def Course.Pass (ρ : Repeater.Rounds) (body : List Block) (ds : List T) (n : Nat) (tab : TabRef)
    (s : Scene W T) (p : Progress T) (ms : List (Moment W T)) (r : Result W T TabRef) : Prop :=
  Course.Blocks a h n (ρ.transform n) ds body tab (Run.heard a (ρ.status a n p.reached) s)
    ((ρ.bound n p).reporting (ρ.status a n p.reached) s.now) ms r

/-- The passes of a repeater, `left` of them, after `done` were completed. -/
inductive Course.Passes (ρ : Repeater.Rounds) (body : List Block) (ds : List T) :
    Nat → Nat → TabRef → Scene W T → Progress T → List (Moment W T) →
      Result W T (TabRef × Nat) → Prop
  | ended {done tab s p} : Passes ρ body ds done 0 tab s p [] (.done (tab, done), s, p)
  | stopped {done left tab s p} : s.control.stopped = true →
      Passes ρ body ds done (left + 1) tab s p [] (.done (tab, done), s, p)
  | broke {done left tab s p ms s' p'} {e : Halt} : s.control.stopped = false →
      Course.Pass a h ρ body ds (done + 1) tab s p ms (e.outcome, s', p') →
      Passes ρ body ds done (left + 1) tab s p
        (ρ.head a (done + 1) s p ++ ms ++ [⟨.leave (done + 1), s', p'.settled⟩])
        (e.outcome, s', p'.settled)
  | cutShort {done left tab s p ms tab' s' p'} : s.control.stopped = false →
      Course.Pass a h ρ body ds (done + 1) tab s p ms (.done tab', s', p') →
      s'.control.stopped = true →
      Passes ρ body ds done (left + 1) tab s p
        (ρ.head a (done + 1) s p ++ ms ++ [⟨.leave (done + 1), s', p'.settled⟩])
        (.done (tab', done), s', p'.settled)
  | next {done left tab s p ms tab' s' p' ms' r} : s.control.stopped = false →
      Course.Pass a h ρ body ds (done + 1) tab s p ms (.done tab', s', p') →
      s'.control.stopped = false →
      Passes ρ body ds (done + 1) left tab' s' p'.settled ms' r →
      Passes ρ body ds done (left + 1) tab s p
        (ρ.head a (done + 1) s p ++ ms ++ ⟨.leave (done + 1), s', p'.settled⟩ :: ms') r

/-- A repeater: its preparation and then its passes. -/
inductive Course.Repeater (prep : Run W T Repeater.Setup) (ds : List T) (tab : TabRef)
    (s : Scene W T) (p : Progress T) : List (Moment W T) → Result W T RepeaterResult → Prop
  | unready {s' p'} {e : Halt} : prep h ds s p = (e.outcome, s', p') →
      Repeater prep ds tab s p [] (e.outcome, s', p')
  | ready {u s' p' ms r} : prep h ds s p = (.done u, s', p') →
      Course.Passes a h u.rounds (u.range.select a.flow.blocks) ds 0 u.count tab s' p' ms r →
      Repeater prep ds tab s p ms (r.1.map fun q => ⟨q.1, u.range.lastIndex, q.2⟩, r.2)

def Run.late (b : Block) : Fault := .blockTimedOut a.engagement.config.blockTimeoutSec b.label

/-- The deadlines inside a top-level block, none when it has no time at all. -/
def Run.unitBudget? (ds : List T) (s : Scene W T) : Option (List T) :=
  Activity.budget? a.engagement.config.blockTimeoutSec ds (Activity.yielded h s).now

/-- A top-level block inside its time limit, with the position that follows it. -/
inductive Course.Unit (ds : List T) (index : Nat) (b : Block) (tab : TabRef) (s : Scene W T)
    (p : Progress T) : List (Moment W T) → Result W T (Nat × TabRef) → Prop
  | late : Run.unitBudget? a h ds s = none →
      Unit ds index b tab s p [] (.failed (Run.late a b), Activity.yielded h s, p)
  | single {inner r} : b.isRepeater = false → Run.unitBudget? a h ds s = some inner →
      Run.block a b tab h inner (Activity.yielded h s) p = r →
      Unit ds index b tab s p []
        ((Activity.capped ds.length (Run.late a b) r.1).map fun tab => (index + 1, tab), r.2)
  | repeated {prep inner ms r} : Repeater.setup? a b index tab = some prep →
      Run.unitBudget? a h ds s = some inner →
      Course.Repeater a h prep inner tab (Activity.yielded h s) p ms r →
      Unit ds index b tab s p ms
        ((Activity.capped ds.length (Run.late a b) r.1).map fun q =>
          ((q.lastIndex + 1).toNat, q.tab), r.2)

/-- How a top-level block begins: its position is reached, it is reported, and then it starts. -/
def Run.unitHead (index : Nat) (b : Block) (tab : TabRef) (s : Scene W T) (p : Progress T) :
    List (Moment W T) :=
  [⟨.reach index, s, p⟩,
    ⟨.report (.unit index) (unitStatus a b (p.reached + 1)), s, p.reaching index⟩,
    ⟨.start (.top index) b tab, heard a (unitStatus a b (p.reached + 1)) s,
      (p.reaching index).reporting (unitStatus a b (p.reached + 1)) s.now⟩]

/-- A top-level block, from the state in which it starts. -/
def Course.Started (ds : List T) (index : Nat) (b : Block) (tab : TabRef) (s : Scene W T)
    (p : Progress T) (ms : List (Moment W T)) (r : Result W T (Nat × TabRef)) : Prop :=
  Course.Unit a h ds index b tab (Run.heard a (Run.unitStatus a b (p.reached + 1)) s)
    ((p.reaching index).reporting (Run.unitStatus a b (p.reached + 1)) s.now) ms r

inductive Course.Scan (ds : List T) :
    Nat → TabRef → Scene W T → Progress T → List (Moment W T) → Result W T TabRef → Prop
  | ended {index tab s p} : a.flow.blocks.length ≤ index →
      Scan ds index tab s p [] (.done tab, s, p)
  | stopped {index b tab s p} : a.flow.blocks[index]? = some b → s.control.stopped = true →
      Scan ds index tab s p [] (.done tab, s, p)
  | disabled {index b tab s p ms r} : a.flow.blocks[index]? = some b →
      s.control.stopped = false → b.enabled = false →
      Scan ds (index + 1) tab s p ms r → Scan ds index tab s p ms r
  | leftOut {index b tab s p ms r} : a.flow.blocks[index]? = some b →
      s.control.stopped = false → b.enabled = true → 0 < p.skips →
      Scan ds (Run.afterSkipped a.flow.blocks index b) tab s
        { p.reaching index with skips := p.skips - 1 } ms r →
      Scan ds index tab s p
        (⟨.reach index, s, p⟩ :: ⟨.leaveOut (.top index) b, s, p.reaching index⟩ :: ms) r
  | broke {index b tab s p ms s' p'} {e : Halt} : a.flow.blocks[index]? = some b →
      s.control.stopped = false → b.enabled = true → p.skips = 0 →
      Course.Started a h ds index b tab s p ms (e.outcome, s', p') →
      Scan ds index tab s p
        (Run.unitHead a index b tab s p ++ ms ++ [⟨.finish (.top index) b e.outcome, s', p'⟩])
        (e.outcome, s', p')
  | ran {index b tab s p ms next tab' s' p' ms' r} : a.flow.blocks[index]? = some b →
      s.control.stopped = false → b.enabled = true → p.skips = 0 →
      Course.Started a h ds index b tab s p ms (.done (next, tab'), s', p') →
      Scan ds next tab' s' p' ms' r →
      Scan ds index tab s p
        (Run.unitHead a index b tab s p ++ ms ++
          ⟨.finish (.top index) b (.done tab'), s', p'⟩ :: ms') r

def Course.Opened (ds : List T) (tab : TabRef) (s : Scene W T) (p : Progress T)
    (ms : List (Moment W T)) (r : Result W T TabRef) : Prop :=
  Course.Scan a h ds 0 tab (Run.heard a (Run.openingStatus a p.reached) s)
    (p.reporting (Run.openingStatus a p.reached) s.now) ms r

inductive Course.Flow (ds : List T) (tab : TabRef) (s : Scene W T) (p : Progress T) :
    List (Moment W T) → Result W T RunStatus → Prop
  | completed {ms tab' s' p'} :
      Course.Opened a h ds tab s p ms (.done tab', s', p') →
      Flow ds tab s p
        (⟨.report .opening (Run.openingStatus a p.reached), s, p⟩ :: ms ++
          [⟨.report .closing (Run.completedStatus a), s', p'.completing a⟩])
        (.done (Run.completedStatus a), Run.heard a (Run.completedStatus a) s',
          (p'.completing a).reporting (Run.completedStatus a) s'.now)
  | failed {ms f s' p'} :
      Course.Opened a h ds tab s p ms (.failed f, s', p') →
      Flow ds tab s p
        (⟨.report .opening (Run.openingStatus a p.reached), s, p⟩ :: ms ++
          [⟨.report .closing (Run.errorStatus a f p'.reached), s', p'⟩])
        (.done (Run.errorStatus a f p'.reached), Run.heard a (Run.errorStatus a f p'.reached) s',
          p'.reporting (Run.errorStatus a f p'.reached) s'.now)
  | lost {ms s' p'} {e : Halt} : (∀ f, e ≠ .failed f) →
      Course.Opened a h ds tab s p ms (e.outcome, s', p') →
      Flow ds tab s p (⟨.report .opening (Run.openingStatus a p.reached), s, p⟩ :: ms)
        (e.outcome, s', p')

end Rules

/-! ## Where a unit ends -/

theorem BodyRange.ofRepeater_eq_ok {blocks : List Block} {index : Nat} {r : BodyRange}
    (hr : ofRepeater blocks index = .ok r) : r = after blocks index ∧ index + 1 < r.stop := by
  unfold ofRepeater at hr
  dsimp only at hr
  split at hr
  · split at hr <;> cases hr
  · rename_i he
    cases hr
    rw [isEmpty, decide_eq_true_eq, Nat.not_le] at he
    exact ⟨rfl, he⟩

theorem BodyRange.lt_stop (blocks : List Block) (index : Nat) :
    index < (after blocks index).stop := by
  unfold after
  dsimp only
  omega

theorem BodyRange.stop_le {blocks : List Block} {index : Nat} (hi : index < blocks.length) :
    (after blocks index).stop ≤ blocks.length := by
  have hle :=
    (List.takeWhile_sublist (p := (!·.isRepeater)) (l := blocks.drop (index + 1))).length_le
  rw [List.length_drop] at hle
  unfold after
  dsimp only
  omega

theorem Run.lt_afterSkipped (blocks : List Block) (index : Nat) (b : Block) :
    index < afterSkipped blocks index b := by
  unfold afterSkipped
  split
  · exact BodyRange.lt_stop blocks index
  · omega

theorem Run.afterSkipped_le {blocks : List Block} {index : Nat} (hi : index < blocks.length)
    (b : Block) : afterSkipped blocks index b ≤ blocks.length := by
  unfold afterSkipped
  split
  · exact BodyRange.stop_le hi
  · omega

section Ends
variable {a : Assignment} {h : Host W T} {ds : List T} {tab : TabRef} {s : Scene W T}
  {p : Progress T} {ms : List (Moment W T)}

theorem Course.Repeater.of_done {prep : Run W T Repeater.Setup} {q : RepeaterResult}
    {s' : Scene W T} {p' : Progress T}
    (hc : Course.Repeater a h prep ds tab s p ms (.done q, s', p')) :
    ∃ u s₁ p₁ tab' n, prep h ds s p = (.done u, s₁, p₁) ∧ q = ⟨tab', u.range.lastIndex, n⟩ ∧
      Course.Passes a h u.rounds (u.range.select a.flow.blocks) ds 0 u.count tab s₁ p₁ ms
        (.done (tab', n), s', p') := by
  generalize hr : (Outcome.done q, s', p') = r at hc
  cases hc with
  | unready hu => exact absurd (congrArg Prod.fst hr) (Halt.done_ne_outcome _ _)
  | @ready u s₁ p₁ _ r hu hm =>
    obtain ⟨o, s₂, p₂⟩ := r
    simp only [Prod.mk.injEq] at hr
    obtain ⟨ho, rfl, rfl⟩ := hr
    obtain ⟨⟨tab', n⟩, rfl, rfl⟩ := Outcome.map_eq_done.1 ho.symm
    exact ⟨u, s₁, p₁, tab', n, hu, rfl, hm⟩

theorem Course.Unit.of_done {index next : Nat} {b : Block} {tab' : TabRef} {s' : Scene W T}
    {p' : Progress T} (hc : Course.Unit a h ds index b tab s p ms (.done (next, tab'), s', p')) :
    ∃ inner, Run.unitBudget? a h ds s = some inner ∧
      ((b.isRepeater = false ∧ next = index + 1 ∧ ms = [] ∧
          Run.block a b tab h inner (Activity.yielded h s) p = (.done tab', s', p')) ∨
        ∃ prep q, Repeater.setup? a b index tab = some prep ∧ next = (q.lastIndex + 1).toNat ∧
          tab' = q.tab ∧
          Course.Repeater a h prep inner tab (Activity.yielded h s) p ms (.done q, s', p')) := by
  generalize hr : (Outcome.done (next, tab'), s', p') = r at hc
  cases hc with
  | late hb => cases hr
  | @single inner r hk hb hm =>
    obtain ⟨o, s₂, p₂⟩ := r
    simp only [Prod.mk.injEq] at hr
    obtain ⟨ho, rfl, rfl⟩ := hr
    obtain ⟨t, ht, he⟩ := Outcome.map_eq_done.1 ho.symm
    cases he
    cases Activity.capped_eq_done.1 ht
    exact ⟨inner, hb, .inl ⟨hk, rfl, rfl, hm⟩⟩
  | @repeated prep inner _ r hp hb hm =>
    obtain ⟨o, s₂, p₂⟩ := r
    simp only [Prod.mk.injEq] at hr
    obtain ⟨ho, rfl, rfl⟩ := hr
    obtain ⟨q, ht, he⟩ := Outcome.map_eq_done.1 ho.symm
    cases he
    cases Activity.capped_eq_done.1 ht
    exact ⟨inner, hb, .inr ⟨prep, q, hp, rfl, rfl, hm⟩⟩

/-- A unit that runs and a unit that is left out are followed by the same position. -/
theorem Course.Unit.next_eq {index next : Nat} {b : Block} {tab' : TabRef} {s' : Scene W T}
    {p' : Progress T} (hc : Course.Unit a h ds index b tab s p ms (.done (next, tab'), s', p')) :
    next = Run.afterSkipped a.flow.blocks index b := by
  obtain ⟨inner, -, ⟨hk, rfl, -, -⟩ | ⟨prep, q, hp, rfl, -, hr⟩⟩ := hc.of_done
  · simp [Run.afterSkipped, hk]
  · obtain ⟨u, s₁, p₁, t, n, hu, rfl, -⟩ := hr.of_done
    have hk : b.isRepeater = true := by
      cases hk : b.isRepeater with
      | true => rfl
      | false => rw [Repeater.setup?_eq_none.2 hk] at hp; cases hp
    obtain ⟨hrange, -⟩ := BodyRange.ofRepeater_eq_ok (Repeater.setup?_range hp _ _ _ _ _ _ _ hu)
    simp only [Run.afterSkipped, hk, if_true, hrange, BodyRange.lastIndex]
    omega

end Ends

/-! ## Every run has a course -/

namespace Course
variable {a : Assignment} {h : Host W T}

theorem exists_blocks (n : Nat) (f : Block → Block) (ds : List T) (bs : List Block)
    (tab : TabRef) (s : Scene W T) (p : Progress T) :
    ∃ ms, Blocks a h n f ds bs tab s p ms (Repeater.blocks a f bs tab h ds s p) := by
  induction bs generalizing tab s p with
  | nil => exact ⟨[], .nil⟩
  | cons b rest ih =>
    rw [Repeater.blocks_cons]
    cases hs : s.control.stopped with
    | true => exact ⟨[], .stopped hs⟩
    | false =>
      cases hb : b.enabled with
      | false =>
        obtain ⟨ms, hm⟩ := ih tab s p
        exact ⟨ms, .disabled hs hb hm⟩
      | true =>
        by_cases hk : 0 < p.skips
        · obtain ⟨ms, hm⟩ := ih tab s { p with skips := p.skips - 1 }
          simp only [Bool.false_eq_true, if_false, Bool.not_true, hk, if_true]
          exact ⟨_, .leftOut hs hb hk hm⟩
        · have hk' : p.skips = 0 := by omega
          simp only [Bool.false_eq_true, if_false, Bool.not_true, hk]
          obtain ⟨tab', s', p', hr⟩ | ⟨e, s', p', hr⟩ :=
            Activity.ends (Run.block a (f b) tab) h ds s p
          · rw [Activity.bind_done hr]
            obtain ⟨ms, hm⟩ := ih tab' s' p'
            exact ⟨_, .ran hs hb hk' hr hm⟩
          · rw [Activity.bind_halt hr]
            exact ⟨_, .broke hs hb hk' hr⟩

theorem exists_passes (ρ : Repeater.Rounds) (body : List Block) (ds : List T) (done left : Nat)
    (tab : TabRef) (s : Scene W T) (p : Progress T) :
    ∃ ms, Passes a h ρ body ds done left tab s p ms
      (Repeater.passes a (ρ.plan a) body done left tab h ds s p) := by
  induction left generalizing done tab s p with
  | zero => exact ⟨[], .ended⟩
  | succ left ih =>
    rw [Repeater.passes_succ]
    cases hs : s.control.stopped with
    | true => exact ⟨[], .stopped hs⟩
    | false =>
      simp only [Bool.false_eq_true, if_false]
      obtain ⟨ms, hm⟩ := exists_blocks (a := a) (h := h) (done + 1) (ρ.transform (done + 1)) ds body
        tab (Run.heard a (ρ.status a (done + 1) p.reached) s)
        ((ρ.bound (done + 1) p).reporting (ρ.status a (done + 1) p.reached) s.now)
      obtain ⟨tab', s', p', hr⟩ | ⟨e, s', p', hr⟩ :=
        Activity.ends (Repeater.blocks a (ρ.transform (done + 1)) body tab) h ds
          (Run.heard a (ρ.status a (done + 1) p.reached) s)
          ((ρ.bound (done + 1) p).reporting (ρ.status a (done + 1) p.reached) s.now)
      · have hpass := (Activity.ensuring_apply (Repeater.blocks a (ρ.transform (done + 1)) body tab)
          (fun p => { p with skips := 0 })).trans (by rw [hr])
        rw [hr] at hm
        rw [Repeater.pass, Activity.bind_done hpass, Activity.stopped_bind]
        cases hs' : s'.control.stopped with
        | true => exact ⟨_, .cutShort hs hm hs'⟩
        | false =>
          obtain ⟨ms', hm'⟩ := ih (done + 1) tab' s' p'.settled
          exact ⟨_, .next hs hm hs' hm'⟩
      · have hpass := (Activity.ensuring_apply (Repeater.blocks a (ρ.transform (done + 1)) body tab)
          (fun p => { p with skips := 0 })).trans (by rw [hr])
        rw [hr] at hm
        rw [Repeater.pass, Activity.bind_halt hpass]
        exact ⟨_, .broke hs hm⟩

theorem exists_repeater (prep : Run W T Repeater.Setup) (ds : List T) (tab : TabRef)
    (s : Scene W T) (p : Progress T) :
    ∃ ms, Repeater a h prep ds tab s p ms ((prep >>= fun u => u.run a tab) h ds s p) := by
  obtain ⟨u, s', p', hu⟩ | ⟨e, s', p', hu⟩ := Activity.ends prep h ds s p
  · obtain ⟨ms, hm⟩ := exists_passes (a := a) (h := h) u.rounds (u.range.select a.flow.blocks) ds
      0 u.count tab s' p'
    refine ⟨ms, ?_⟩
    rw [Activity.bind_done hu, Repeater.Setup.run, Activity.bind_pure_map]
    exact .ready hu hm
  · rw [Activity.bind_halt hu]
    exact ⟨[], .unready hu⟩

theorem exists_unit (ds : List T) (index : Nat) (b : Block) (tab : TabRef) (s : Scene W T)
    (p : Progress T) :
    ∃ ms, Unit a h ds index b tab s p ms (Run.unit a index b tab h ds s p) := by
  rw [Run.unit_eq_within]
  cases hb : Run.unitBudget? a h ds s with
  | none =>
    rw [Activity.within_of_none hb]
    exact ⟨[], .late hb⟩
  | some inner =>
    rw [Activity.within_of_some hb, Run.unlimited]
    cases hp : (Repeater.setup? a b index tab : Option (Run W T Repeater.Setup)) with
    | none =>
      dsimp only
      rw [Activity.bind_pure_map, ← Activity.capped_map]
      exact ⟨[], .single (Repeater.setup?_eq_none.1 hp) hb rfl⟩
    | some prep =>
      obtain ⟨ms, hm⟩ := exists_repeater (a := a) (h := h) prep inner tab
        (Activity.yielded h s) p
      dsimp only
      rw [Activity.bind_pure_map, ← Activity.capped_map]
      exact ⟨ms, .repeated hp hb hm⟩

/-! A course has no choices: it ends as the run does. -/

theorem Blocks.result_eq {n : Nat} {f : Block → Block} {ds : List T} {bs : List Block}
    {tab : TabRef} {s : Scene W T} {p : Progress T} {ms : List (Moment W T)} {r : Result W T TabRef}
    (hc : Blocks a h n f ds bs tab s p ms r) : Repeater.blocks a f bs tab h ds s p = r := by
  induction hc with
  | nil => rfl
  | stopped hs => rw [Repeater.blocks_cons, if_pos hs]
  | disabled hs hb hc ih =>
    rw [Repeater.blocks_cons, hs, hb]
    exact ih
  | leftOut hs hb hk hc ih =>
    rw [Repeater.blocks_cons, hs, hb, if_pos hk]
    exact ih
  | broke hs hb hk hr =>
    rw [Repeater.blocks_cons, hs, hb, hk]
    exact Activity.bind_halt hr
  | ran hs hb hk hr hc ih =>
    rw [Repeater.blocks_cons, hs, hb, hk]
    exact (Activity.bind_done hr).trans ih

theorem Passes.result_eq {ρ : Repeater.Rounds} {body : List Block} {ds : List T}
    {done left : Nat} {tab : TabRef} {s : Scene W T} {p : Progress T} {ms : List (Moment W T)}
    {r : Result W T (TabRef × Nat)} (hc : Passes a h ρ body ds done left tab s p ms r) :
    Repeater.passes a (ρ.plan a) body done left tab h ds s p = r := by
  have pass {n : Nat} {tab : TabRef} {s : Scene W T} {p : Progress T} {ms : List (Moment W T)}
      {o : Outcome TabRef} {s' : Scene W T} {p' : Progress T}
      (hp : Pass a h ρ body ds n tab s p ms (o, s', p')) :
      Repeater.pass a (ρ.transform n) body tab h ds (Run.heard a (ρ.status a n p.reached) s)
        ((ρ.bound n p).reporting (ρ.status a n p.reached) s.now) = (o, s', p'.settled) := by
    rw [Repeater.pass, Activity.ensuring_apply, Blocks.result_eq hp]
    rfl
  induction hc with
  | ended => rfl
  | stopped hs => rw [Repeater.passes_succ, if_pos hs]
  | broke hs hp =>
    rw [Repeater.passes_succ, hs]
    exact Activity.bind_halt (pass hp)
  | cutShort hs hp hs' =>
    rw [Repeater.passes_succ, hs]
    refine (Activity.bind_done (pass hp)).trans ?_
    rw [Activity.stopped_bind, hs']
    rfl
  | next hs hp hs' hc ih =>
    rw [Repeater.passes_succ, hs]
    refine (Activity.bind_done (pass hp)).trans ?_
    rw [Activity.stopped_bind, hs']
    exact ih

theorem Repeater.result_eq {prep : Run W T Repeater.Setup} {ds : List T} {tab : TabRef}
    {s : Scene W T} {p : Progress T} {ms : List (Moment W T)} {r : Result W T RepeaterResult}
    (hc : Repeater a h prep ds tab s p ms r) : (prep >>= fun u => u.run a tab) h ds s p = r := by
  cases hc with
  | unready hu => exact Activity.bind_halt hu
  | ready hu hc =>
    rw [Activity.bind_done hu, Repeater.Setup.run, Activity.bind_pure_map, hc.result_eq]

theorem Unit.result_eq {ds : List T} {index : Nat} {b : Block} {tab : TabRef} {s : Scene W T}
    {p : Progress T} {ms : List (Moment W T)} {r : Result W T (Nat × TabRef)}
    (hc : Unit a h ds index b tab s p ms r) : Run.unit a index b tab h ds s p = r := by
  rw [Run.unit_eq_within]
  cases hc with
  | late hb => exact Activity.within_of_none hb
  | single hk hb hr =>
    rw [Activity.within_of_some hb, Run.unlimited, Repeater.setup?_eq_none.2 hk]
    dsimp only
    rw [Activity.bind_pure_map, hr, Activity.capped_map]
    rfl
  | repeated hp hb hc =>
    rw [Activity.within_of_some hb, Run.unlimited, hp]
    dsimp only
    rw [Activity.bind_pure_map, hc.result_eq, Activity.capped_map]
    rfl

/-- The bound on the positions that are left never ends a scan early. -/
theorem exists_scan (ds : List T) (fuel index : Nat) (tab : TabRef) (s : Scene W T)
    (p : Progress T) (hf : a.flow.blocks.length ≤ index + fuel) :
    ∃ ms, Scan a h ds index tab s p ms (Run.scanFrom a fuel index tab h ds s p) := by
  -- a unit ends at a later position (`Unit.next_eq`), so the bound stays large enough
  induction fuel generalizing index tab s p with
  | zero => exact ⟨[], .ended hf⟩
  | succ fuel ih =>
    cases hb : a.flow.blocks[index]? with
    | none =>
      have hi := List.getElem?_eq_none_iff.1 hb
      rw [Run.scanFrom_end hi]
      exact ⟨[], .ended hi⟩
    | some b =>
      rw [Run.scanFrom_succ hb]
      have hskip := Run.lt_afterSkipped a.flow.blocks index b
      cases hs : s.control.stopped with
      | true => exact ⟨[], .stopped hb hs⟩
      | false =>
        cases he : b.enabled with
        | false =>
          obtain ⟨ms, hm⟩ := ih (index + 1) tab s p (by omega)
          exact ⟨ms, .disabled hb hs he hm⟩
        | true =>
          simp only [Bool.false_eq_true, if_false, Bool.not_true]
          by_cases hk : 0 < p.skips
          · obtain ⟨ms, hm⟩ := ih (Run.afterSkipped a.flow.blocks index b) tab s
              { p.reaching index with skips := p.skips - 1 } (by omega)
            rw [if_pos hk]
            exact ⟨_, .leftOut hb hs he hk hm⟩
          · have hk' : p.skips = 0 := by omega
            rw [if_neg hk]
            obtain ⟨ms, hm⟩ := exists_unit (a := a) (h := h) ds index b tab
              (Run.heard a (Run.unitStatus a b (p.reached + 1)) s)
              ((p.reaching index).reporting (Run.unitStatus a b (p.reached + 1)) s.now)
            obtain ⟨⟨next, tab'⟩, s', p', hr⟩ | ⟨e, s', p', hr⟩ :=
              Activity.ends (Run.unit a index b tab) h ds
                (Run.heard a (Run.unitStatus a b (p.reached + 1)) s)
                ((p.reaching index).reporting (Run.unitStatus a b (p.reached + 1)) s.now)
            · rw [hr] at hm
              rw [Activity.bind_done hr]
              have hn := hm.next_eq
              obtain ⟨ms', hm'⟩ := ih next tab' s' p' (by omega)
              exact ⟨_, .ran hb hs he hk' hm hm'⟩
            · rw [hr] at hm
              rw [Activity.bind_halt hr]
              exact ⟨_, .broke hb hs he hk' hm⟩

/-- Every run has a course, which ends as the run does. -/
theorem exists_flow (ds : List T) (tab : TabRef) (s : Scene W T) (p : Progress T) :
    ∃ ms, Flow a h ds tab s p ms (Run.flow a tab h ds s p) := by
  obtain ⟨ms, hm⟩ := exists_scan (a := a) (h := h) ds a.flow.blocks.length 0 tab
    (Run.heard a (Run.openingStatus a p.reached) s)
    (p.reporting (Run.openingStatus a p.reached) s.now) (by omega)
  obtain ⟨tab', s', p', hr⟩ | ⟨e, s', p', hr⟩ :=
    Activity.ends (Run.scan a tab) h ds (Run.heard a (Run.openingStatus a p.reached) s)
      (p.reporting (Run.openingStatus a p.reached) s.now)
  · rw [Run.flow_of_done hr]
    rw [Run.scan] at hr
    rw [hr] at hm
    exact ⟨_, .completed hm⟩
  · have hm' := hm
    rw [← Run.scan, hr] at hm'
    by_cases he : ∃ f, e = .failed f
    · obtain ⟨f, rfl⟩ := he
      rw [Run.flow_of_failed hr]
      exact ⟨_, .failed hm'⟩
    · have he' : ∀ f, e ≠ .failed f := fun f hf => he ⟨f, hf⟩
      rw [Run.flow_of_lost he' hr]
      exact ⟨_, .lost he' hm'⟩

end Course

/-! ## Runs of an engine -/

namespace Engine
variable (e : Engine) (host : Host W T) (flow : Flow) (tab : TabRef) (sink : Option Sink)
  (initial : List (String × Value)) (world : W) (now : T)

def result : Result W T RunStatus :=
  Run.flow ⟨flow, e.engagement, sink⟩ tab host [] ⟨world, now, { active := some flow.name }⟩
    { store := Store.ofAssignments initial }

/-- These moments are the course of a run. -/
def RunsThrough (ms : List (Moment W T)) : Prop :=
  Course.Flow ⟨flow, e.engagement, sink⟩ host [] tab
    ⟨world, now, { active := some flow.name }⟩ { store := Store.ofAssignments initial } ms
    (e.result host flow tab sink initial world now)

theorem exists_runsThrough : ∃ ms, e.RunsThrough host flow tab sink initial world now ms :=
  Course.exists_flow ..

theorem run_status :
    (e.run host flow tab sink initial world now).status =
      match (e.result host flow tab sink initial world now).1 with
      | .done status => some status
      | _ => none := rfl

theorem run_events :
    (e.run host flow tab sink initial world now).events =
      (e.result host flow tab sink initial world now).2.2.events := rfl

theorem run_lastStatus :
    (e.run host flow tab sink initial world now).engine.lastStatus =
      (e.run host flow tab sink initial world now).status.or e.lastStatus := rfl

end Engine

end BrowserFlow
