import BrowserFlow.Proofs.Refinement

/-!
What a condition leaves out. One count serves the scan and the passes of a repeater. A pass is
entered and left with the count at zero, and only a failed check raises it; at the top level it is
used up by the units that follow, and in a body by the enabled blocks that follow in the same pass.
-/
namespace BrowserFlow
set_option autoImplicit false

variable {W T : Type} [Clock T] {a : Assignment} {h : Host W T} {ds : List T} {s s' : Scene W T}
  {p : Progress T} {tab : TabRef} {b : Block} {n : Nat}

/-! ## Failed checks -/

/-- The check of a condition fails, and its policy is to leave out `n` blocks. -/
structure Run.FailsCheck (a : Assignment) (b : Block) (tab : TabRef) (h : Host W T) (ds : List T)
    (s : Scene W T) (p : Progress T) (n : Nat) (s' : Scene W T) : Prop where
  condition : b.kind? = some .condition
  check : ∃ verdict : Verdict, verdict.passed = false ∧
    Condition.evaluate a.engagement (Template.interpolateAll p.store b.params) tab h ds s () =
      (.done verdict, s', ())
  policy : FailurePolicy.ofValue
    (Mapping.named (Template.interpolateAll p.store b.params) "on_fail") = .skip n

/-- A failed check sets the count and changes nothing else. -/
theorem Run.FailsCheck.block (hf : FailsCheck a b tab h ds s p n s') :
    Run.block a b tab h ds s p = (.done tab, s', { p with skips := n }) := by
  obtain ⟨verdict, hv, hc⟩ := hf.check
  have hlift : (Condition.evaluate a.engagement (Template.interpolateAll p.store b.params)
      tab).lift h ds s p = (.done verdict, s', p) := by
    rw [Activity.lift_apply, hc]
  have hstore : (Run.store : Run W T Store) h ds s p = (.done p.store, s, p) := rfl
  have hcondition : Run.condition a b tab h ds s p = (.done (), s', { p with skips := n }) := by
    rw [Run.condition, Activity.bind_done hstore, Activity.bind_done hlift, hv]
    simp only [Bool.false_eq_true, if_false, hf.policy]
    rfl
  rw [Run.block, if_pos hf.condition, Activity.bind_done hcondition]
  rfl

/-- A block that is no condition leaves the count as it is. -/
theorem Run.block_skips (hb : b.kind? ≠ some .condition) :
    (block a b tab h ds s p).2.2.skips = p.skips := by
  have refl (p : Progress T) : p.skips = p.skips := rfl
  have seq {α β : Type} {x : Run W T α} {f : α → Run W T β}
      (hx : Activity.Changes (fun p q => q.skips = p.skips) x)
      (hf : ∀ a, Activity.Changes (fun p q => q.skips = p.skips) (f a)) :
      Activity.Changes (fun p q => q.skips = p.skips) (x >>= f) :=
    .bind (fun _ _ _ h h' => h'.trans h) hx hf
  have hstep : Activity.Changes (fun p q => q.skips = p.skips) (step a b tab : Run W T TabRef) :=
    seq (fun _ _ _ p => refl p) fun store => seq (.lift refl _) fun result =>
      seq (.modify refl) fun _ => .pure refl _
  rw [block, if_neg hb]
  exact hstep h ds s p

/-- A unit that is no condition ends with nothing to be left out. -/
theorem Run.unit_skips {index : Nat} (hb : b.kind? ≠ some .condition) (hk : p.skips = 0) :
    (unit a index b tab h ds s p).2.2.skips = 0 := by
  obtain ⟨ms, hc⟩ := Course.exists_unit (a := a) (h := h) ds index b tab s p
  generalize unit a index b tab h ds s p = r at hc
  cases hc with
  | late hu => exact hk
  | single hr hu hm =>
    subst hm
    exact (block_skips hb).trans hk
  | repeated hp hu hc => exact (hc.inside hp hk).2

/-! ## At the top level -/

def Progress.leaving (p : Progress T) (us : List FlowUnit) : Progress T :=
  { p with
    skips := p.skips - us.length
    reached := p.reached + us.length
    position := (us.getLast?.map (·.position)).or p.position }

omit [Clock T] in
theorem Progress.leaving_cons {u : FlowUnit} {us : List FlowUnit} (hk : p.skips = n + 1) :
    p.leaving (u :: us) = { p.reaching u.position with skips := n }.leaving us := by
  have hskips : p.skips - (us.length + 1) = n - us.length := by omega
  have hreached : p.reached + (us.length + 1) = p.reached + 1 + us.length := by omega
  unfold leaving reaching
  rw [List.length_cons, hskips, hreached, List.getLast?_cons]
  cases us.getLast? <;> rfl

/-- What is to be left out is used up by the units that follow, one for each, in no time and
without a call or a report; then the scan goes on with the next unit. -/
theorem Run.scanFrom_leaveOut (fuel index : Nat) (hs : s.control.stopped = false)
    (hf : a.flow.blocks.length ≤ index + fuel) :
    scanFrom a fuel index tab h ds s p =
      match (FlowUnit.read index (a.flow.blocks.drop index)).drop p.skips with
      | [] => (.done tab, s, p.leaving
          ((FlowUnit.read index (a.flow.blocks.drop index)).take p.skips))
      | u :: _ => scanFrom a a.flow.blocks.length u.position tab h ds s
          (p.leaving ((FlowUnit.read index (a.flow.blocks.drop index)).take p.skips)) := by
  have hover {fuel index : Nat} {p : Progress T} (hi : a.flow.blocks.length ≤ index) :
      scanFrom a fuel index tab h ds s p =
        match (FlowUnit.read index (a.flow.blocks.drop index)).drop p.skips with
        | [] => (.done tab, s, p.leaving
            ((FlowUnit.read index (a.flow.blocks.drop index)).take p.skips))
        | u :: _ => scanFrom a a.flow.blocks.length u.position tab h ds s
            (p.leaving ((FlowUnit.read index (a.flow.blocks.drop index)).take p.skips)) := by
    rw [scanFrom_end hi, FlowUnit.read_over hi, List.drop_nil, List.take_nil]
    rfl
  induction fuel generalizing index p with
  | zero => exact hover hf
  | succ fuel ih =>
    cases hb : a.flow.blocks[index]? with
    | none => exact hover (List.getElem?_eq_none_iff.1 hb)
    | some b =>
      have hlt := lt_afterSkipped a.flow.blocks index b
      rw [scanFrom_succ hb, hs]
      cases he : b.enabled with
      | false =>
        rw [FlowUnit.read_disabled hb he]
        exact ih (index + 1) (by omega)
      | true =>
        simp only [Bool.false_eq_true, if_false, Bool.not_true]
        rw [FlowUnit.read_drop hb he]
        cases hk : p.skips with
        | succ n =>
          have hrest := ih (p := { p.reaching index with skips := n })
            (afterSkipped a.flow.blocks index b) (by omega)
          rw [if_pos (Nat.succ_pos n), List.drop_succ_cons, List.take_succ_cons,
            Progress.leaving_cons hk]
          exact hrest
        | zero =>
          rw [if_neg (Nat.lt_irrefl 0)]
          have hbound : scanFrom a (fuel + 1) index tab h ds s p =
              scanFrom a a.flow.blocks.length index tab h ds s p :=
            scanFrom_bound _ _ tab hf (Nat.le_add_left _ index)
          rw [scanFrom_succ hb, hs, he, hk] at hbound
          exact hbound

/-- The scan from an enabled position on with nothing to be left out: its block is announced and
then run. -/
def Run.runFrom (a : Assignment) (index : Nat) (b : Block) (tab : TabRef) : Run W T TabRef :=
  fun h ds s p =>
    (unit a index b tab >>= fun r => scanFrom a a.flow.blocks.length r.1 r.2) h ds
      (heard a (unitStatus a b (p.reached + 1)) s)
      ((p.reaching index).reporting (unitStatus a b (p.reached + 1)) s.now)

theorem Run.scanFrom_next {fuel index : Nat} (hb : a.flow.blocks[index]? = some b)
    (he : b.enabled = true) (hs : s.control.stopped = false) (hk : p.skips = 0)
    (hf : a.flow.blocks.length ≤ index + fuel) :
    scanFrom a fuel index tab h ds s p = runFrom a index b tab h ds s p := by
  rw [scanFrom_bound fuel (a.flow.blocks.length + 1) tab hf (by omega), scanFrom_succ hb, hs, he,
    hk]
  rfl

theorem Run.FailsCheck.unit {index : Nat} {inner : List T}
    (hu : unitBudget? a h ds s = some inner)
    (hf : FailsCheck a b tab h inner (Activity.yielded h s) p n s') :
    Run.unit a index b tab h ds s p = (.done (index + 1, tab), s', { p with skips := n }) := by
  have hr : b.isRepeater = false := by rw [Block.isRepeater, hf.condition]; rfl
  rw [unit_eq, Repeater.setup?_eq_none.2 hr]
  dsimp only
  rw [Activity.bind_pure_map, Activity.within_of_some hu, hf.block]
  rfl

/-! ## In a body -/

/-- A failed check in a body leaves out the enabled blocks that follow in the pass. -/
theorem Run.FailsCheck.pass {f : Block → Block} {rest : List Block}
    (hs : s.control.stopped = false) (he : b.enabled = true) (hk : p.skips = 0)
    (hf : FailsCheck a (f b) tab h ds s p n s') :
    Repeater.pass a f (b :: rest) tab h ds s p =
      Repeater.pass a f ((rest.filter (·.enabled)).drop n) tab h ds s' p := by
  have hfilter : ((rest.filter (·.enabled)).drop n).filter (·.enabled) =
      (rest.filter (·.enabled)).drop n := by
    refine List.filter_eq_self.2 fun c hc => ?_
    exact (List.mem_filter.1 (List.mem_of_mem_drop hc)).2
  have hrest : (Repeater.blocks a f rest tab).ensuring Progress.settled h ds s'
      { p with skips := n } = _ := Repeater.blocks_structured f rest tab
  have hsettled : { p with skips := n }.settled = p := Progress.settled_of_skips hk
  rw [hsettled, Structured.pass_drop] at hrest
  rw [Repeater.pass_structured f ((rest.filter (·.enabled)).drop n) tab hk, hfilter, ← hrest,
    Repeater.pass, Activity.ensuring_apply, Repeater.blocks_cons, hs, he, hk]
  simp only [Bool.false_eq_true, if_false, Bool.not_true, Nat.lt_irrefl]
  rw [Activity.bind_done hf.block]
  rfl

/-! ## The account -/

def FlowUnit.following (blocks : List Block) (index : Nat) : List FlowUnit :=
  read (index + 1) (blocks.drop (index + 1))

theorem FlowUnit.block_of_following {blocks : List Block} {index n : Nat} {u : FlowUnit}
    {us : List FlowUnit} (hu : (following blocks index).drop n = u :: us) :
    blocks[u.position]? = some u.block ∧ u.block.enabled = true := by
  have hmem : u ∈ read (index + 1) (blocks.drop (index + 1)) := by
    refine List.mem_of_mem_drop (i := n) ?_
    rw [following] at hu
    rw [hu]
    exact List.mem_cons_self
  obtain ⟨k, hk, hb, he⟩ := block_eq hmem
  rw [List.getElem?_drop] at hb
  rw [hk]
  exact ⟨hb, he⟩

/-- How the blocks are counted that a condition leaves out. -/
structure Run.LeavesOut (a : Assignment) (h : Host W T) : Prop where
  /-- A pass is over with nothing to be left out, however it ends. -/
  pass : ∀ (f : Block → Block) (body : List Block) (tab : TabRef) (ds : List T) (s : Scene W T)
    (p : Progress T), (Repeater.pass a f body tab h ds s p).2.2.skips = 0
  /-- So is a repeater, and every other unit that is no condition. -/
  unit : ∀ (index : Nat) (b : Block) (tab : TabRef) (ds : List T) (s : Scene W T)
    (p : Progress T), b.kind? ≠ some .condition → p.skips = 0 →
      (Run.unit a index b tab h ds s p).2.2.skips = 0
  /-- A failed check at the top level: unless a stop was asked for, the next `n` units count as
  reached and nothing else comes of them; then the scan ends or runs the unit after them. -/
  scan : ∀ (fuel index : Nat) (b : Block) (tab : TabRef) (ds inner : List T) (s s' : Scene W T)
    (p : Progress T) (n : Nat), a.flow.blocks.length ≤ index + 1 + fuel →
      unitBudget? a h ds s = some inner →
      FailsCheck a b tab h inner (Activity.yielded h s) p n s' → s'.control.stopped = false →
      (Run.unit a index b tab >>= fun r => scanFrom a fuel r.1 r.2) h ds s p =
        match (FlowUnit.following a.flow.blocks index).drop n with
        | [] => (.done tab, s', { p with skips := n }.leaving
            ((FlowUnit.following a.flow.blocks index).take n))
        | u :: _ => runFrom a u.position u.block tab h ds s' ({ p with skips := n }.leaving
            ((FlowUnit.following a.flow.blocks index).take n))
  /-- A failed check in a body: the pass goes on with the enabled blocks after the next `n`. -/
  body : ∀ (f : Block → Block) (b : Block) (rest : List Block) (tab : TabRef) (ds : List T)
    (s s' : Scene W T) (p : Progress T) (n : Nat), s.control.stopped = false → b.enabled = true →
      p.skips = 0 → FailsCheck a (f b) tab h ds s p n s' →
      Repeater.pass a f (b :: rest) tab h ds s p =
        Repeater.pass a f ((rest.filter (·.enabled)).drop n) tab h ds s' p

/-- In every run of an engine the passes are entered and left with nothing to be left out, and what
a condition leaves out is what follows it. -/
theorem Engine.run_leavesOut (e : Engine) (host : Host W T) (flow : Flow) (tab : TabRef)
    (sink : Option Sink) (initial : List (String × Value)) (world : W) (now : T) :
    ((∃ ms, e.RunsThrough host flow tab sink initial world now ms) ∧
      ∀ ms, e.RunsThrough host flow tab sink initial world now ms →
        ∀ m ∈ ms, ∀ n, m.deed = .enter n ∨ m.deed = .leave n → m.progress.skips = 0) ∧
      Run.LeavesOut ⟨flow, e.engagement, sink⟩ host := by
  refine ⟨⟨e.exists_runsThrough .., fun ms hms m hm n hd => ?_⟩, ?_⟩
  · obtain hs | ⟨st, ho, -⟩ | ⟨st, ho⟩ := hms.sound m hm
    · unfold Moment.Sound at hs
      obtain hd | hd := hd <;> rw [hd] at hs <;> exact hs
    · obtain hd | hd := hd <;> rw [hd] at ho <;> cases ho
    · obtain hd | hd := hd <;> rw [hd] at ho <;> cases ho
  · refine ⟨fun _ _ _ _ _ _ => rfl, fun _ _ _ _ _ _ hb hk => Run.unit_skips hb hk,
      fun fuel index b tab ds inner s s' p n hl hu hf hs => ?_,
      fun f b rest tab ds s s' p n hs he hk hf => hf.pass hs he hk⟩
    rw [Activity.bind_done (hf.unit hu), Run.scanFrom_leaveOut fuel _ hs hl]
    dsimp only
    rw [← FlowUnit.following]
    cases hd : (FlowUnit.following flow.blocks index).drop n with
    | nil => rfl
    | cons u us =>
      obtain ⟨hb, he⟩ := FlowUnit.block_of_following hd
      have hlen := congrArg List.length hd
      rw [List.length_drop, List.length_cons] at hlen
      refine Run.scanFrom_next hb he hs ?_ (Nat.le_add_left ..)
      unfold Progress.leaving
      rw [List.length_take]
      dsimp only
      omega

end BrowserFlow
