import BrowserFlow.Proofs.Account
import BrowserFlow.Proofs.Structured

/-!
The scan by positions runs the units of a flow. What the handlers of the repeaters, the skipping
and the plain step say about where a unit ends agrees with the reading of the flow
(`FlowUnit.read_drop`), so that the scan does what the interpreter of the units does.
-/
namespace BrowserFlow
set_option autoImplicit false

variable {W T : Type}

/-! ## Bodies -/

theorem BodyRange.select_after (blocks : List Block) (index : Nat) :
    (after blocks index).select blocks =
      (blocks.drop (index + 1)).takeWhile (!·.isRepeater) := by
  unfold after select
  dsimp only
  rw [List.drop_take, Nat.add_sub_cancel_left]
  have happend := List.takeWhile_append_dropWhile (p := (!·.isRepeater))
    (l := blocks.drop (index + 1))
  exact (congrArg (List.take _) happend).symm.trans List.take_left

theorem BodyRange.drop_stop (blocks : List Block) (index : Nat) :
    blocks.drop (after blocks index).stop =
      (blocks.drop (index + 1)).dropWhile (!·.isRepeater) := by
  have happend := List.takeWhile_append_dropWhile (p := (!·.isRepeater))
    (l := blocks.drop (index + 1))
  have hdrop := congrArg
    (List.drop ((blocks.drop (index + 1)).takeWhile (!·.isRepeater)).length) happend
  rw [List.drop_left, List.drop_drop] at hdrop
  exact hdrop.symm

theorem BodyRange.ofRepeater_eq {blocks : List Block} {index : Nat} {b : Block}
    (hb : blocks[index]? = some b) :
    ofRepeater blocks index =
      if ((after blocks index).select blocks).isEmpty then .error (.emptyBody b.label)
      else .ok (after blocks index) := by
  have hempty : (after blocks index).isEmpty = ((after blocks index).select blocks).isEmpty := by
    rw [select_after, Bool.eq_iff_iff, List.isEmpty_iff_length_eq_zero, isEmpty, decide_eq_true_eq]
    unfold after
    dsimp only
    omega
  unfold ofRepeater
  dsimp only
  rw [hempty, hb]

/-! ## Units -/

/-- The unit of an enabled block at a position. -/
def FlowUnit.ofBlock (blocks : List Block) (index : Nat) (b : Block) : FlowUnit :=
  ⟨index, b, if b.isRepeater then (BodyRange.after blocks index).select blocks else []⟩

namespace FlowUnit
variable {blocks : List Block} {index : Nat} {b : Block}

theorem read_over (hi : blocks.length ≤ index) : read index (blocks.drop index) = [] := by
  rw [List.drop_eq_nil_of_le hi, read]

theorem read_disabled (hb : blocks[index]? = some b) (he : b.enabled = false) :
    read index (blocks.drop index) = read (index + 1) (blocks.drop (index + 1)) := by
  obtain ⟨hi, rfl⟩ := List.getElem?_eq_some_iff.1 hb
  rw [List.drop_eq_getElem_cons hi, read, he]
  rfl

/-- The unit at an enabled position, and where the next one is looked for. -/
theorem read_drop (hb : blocks[index]? = some b) (he : b.enabled = true) :
    read index (blocks.drop index) = ofBlock blocks index b ::
      read (Run.afterSkipped blocks index b) (blocks.drop (Run.afterSkipped blocks index b)) := by
  obtain ⟨hi, rfl⟩ := List.getElem?_eq_some_iff.1 hb
  rw [List.drop_eq_getElem_cons hi, read, he, ofBlock, Run.afterSkipped]
  cases hk : blocks[index].isRepeater with
  | false => rfl
  | true =>
    simp only [if_true, Bool.not_true, Bool.false_eq_true, if_false]
    rw [BodyRange.select_after, BodyRange.drop_stop]
    rfl

end FlowUnit

variable [Clock T] {a : Assignment} {h : Host W T} {ds : List T} {s : Scene W T} {p : Progress T}

/-! ## Passes -/

omit [Clock T] in
theorem Progress.settled_of_skips (hk : p.skips = 0) : p.settled = p := by
  cases p
  cases hk
  rfl

/-- The blocks of a body, with a count of those to leave out, are its enabled blocks without that
many. -/
theorem Repeater.blocks_structured (f : Block → Block) (bs : List Block) (tab : TabRef) :
    (blocks a f bs tab).ensuring Progress.settled h ds s p =
      (Structured.pass a f p.skips (bs.filter (·.enabled)) tab).ensuring Progress.settled
        h ds s p.settled := by
  induction bs generalizing tab s p with
  | nil =>
    rw [Activity.ensuring_apply, Activity.ensuring_apply,
      Structured.pass_over ([].filter _) List.drop_nil]
    rfl
  | cons b rest ih =>
    rw [Activity.ensuring_apply, blocks_cons]
    cases hs : s.control.stopped with
    | true =>
      rw [Activity.ensuring_apply, Structured.pass_stopped hs]
      rfl
    | false =>
      cases hb : b.enabled with
      | false =>
        rw [List.filter_cons_of_neg (by simp [hb]), ← ih]
        rfl
      | true =>
        simp only [Bool.false_eq_true, if_false, Bool.not_true]
        rw [List.filter_cons_of_pos (by simp [hb])]
        cases hk : p.skips with
        | succ n =>
          -- where the scan counts down, the interpreter drops one more from its list
          rw [if_pos (Nat.succ_pos n), Structured.pass_leaveOut]
          exact ih (p := { p with skips := n }) tab
        | zero =>
          rw [if_neg (Nat.lt_irrefl 0), Activity.ensuring_apply,
            Structured.pass_next (b := b) (rest.filter (·.enabled)) hs rfl,
            Progress.settled_of_skips hk]
          obtain ⟨tab', s', p', hr⟩ | ⟨e, s', p', hr⟩ :=
            Activity.ends (Run.block a (f b) tab) h ds s p
          · rw [Activity.bind_done hr, Activity.bind_done hr, Structured.pending_bind]
            exact ih (s := s') (p := p') tab'
          · rw [Activity.bind_halt hr, Activity.bind_halt hr]

theorem Repeater.pass_structured (f : Block → Block) (body : List Block) (tab : TabRef)
    (hk : p.skips = 0) :
    pass a f body tab h ds s p =
      (Structured.pass a f 0 (body.filter (·.enabled)) tab).ensuring Progress.settled h ds s p := by
  have hblocks : (blocks a f body tab).ensuring Progress.settled h ds s p = _ :=
    blocks_structured f body tab
  rw [hk, Progress.settled_of_skips hk] at hblocks
  exact hblocks

theorem Repeater.pass_skips {f : Block → Block} {body : List Block} {tab : TabRef}
    {o : Outcome TabRef} {s' : Scene W T} {p' : Progress T}
    (hr : pass a f body tab h ds s p = (o, s', p')) : p'.skips = 0 :=
  congrArg (fun r => r.2.2.skips) hr.symm

/-- The passes of a repeater, by number, without their count. -/
theorem Repeater.passes_structured (ρ : Rounds) (body : List Block) (done left : Nat)
    (tab : TabRef) (hk : p.skips = 0) :
    (passes a (ρ.plan a) body done left tab >>= fun r => pure r.1) h ds s p =
      Structured.passes a ρ body (List.range' (done + 1) left) tab h ds s p := by
  induction left generalizing done tab s p with
  | zero => rfl
  | succ left ih =>
    rw [Activity.bind_pure_map, passes_succ]
    cases hs : s.control.stopped with
    | true =>
      rw [Structured.passes_stopped hs]
      rfl
    | false =>
      rw [List.range'_succ, Structured.passes_next hs]
      simp only [Bool.false_eq_true, if_false]
      rw [← Activity.bind_pure_map, Activity.bind_assoc]
      have hk' :
          ((ρ.bound (done + 1) p).reporting (ρ.status a (done + 1) p.reached) s.now).skips = 0 :=
        hk
      refine Activity.bind_congr ?_ fun tab' s' p' hr => ?_
      · exact pass_structured (ρ.transform (done + 1)) body tab hk'
      · have hsettled := pass_skips hr
        rw [Activity.bind_pure_map, Activity.stopped_bind]
        cases hs' : s'.control.stopped with
        | true =>
          rw [Structured.passes_stopped hs']
          rfl
        | false =>
          rw [← ih (done + 1) tab' hsettled, Activity.bind_pure_map]
          rfl

/-! ## Units -/

section Unit
variable {index : Nat} {b : Block} {tab : TabRef}

/-- The position that a repeater's handler hands back is the end of its body. -/
theorem Repeater.repetition_structured (ρ : Rounds) (count : Nat) (ds : List T) (tab : TabRef)
    (hb : a.flow.blocks[index]? = some b) (hr : b.isRepeater = true) (hk : p.skips = 0) :
    ((Activity.ofExcept (BodyRange.ofRepeater a.flow.blocks index) >>= fun range =>
        Setup.run ⟨ρ, count, range⟩ a tab) >>= fun r =>
      pure ((r.lastIndex + 1).toNat, r.tab)) h ds s p =
      (Structured.repetition a ρ count (.ofBlock a.flow.blocks index b) tab >>= fun tab =>
        pure (Run.afterSkipped a.flow.blocks index b, tab)) h ds s p := by
  have hbody : (FlowUnit.ofBlock a.flow.blocks index b).body =
      (BodyRange.after a.flow.blocks index).select a.flow.blocks := if_pos hr
  have hnext : Run.afterSkipped a.flow.blocks index b =
      ((BodyRange.after a.flow.blocks index).lastIndex + 1).toNat := by
    unfold Run.afterSkipped BodyRange.lastIndex
    rw [if_pos hr]
    omega
  rw [BodyRange.ofRepeater_eq hb, Structured.repetition, hbody, hnext]
  cases ((BodyRange.after a.flow.blocks index).select a.flow.blocks).isEmpty with
  | true => rfl
  | false =>
    simp only [Bool.false_eq_true, if_false, Activity.ofExcept_ok, Activity.pure_bind]
    rw [Setup.run, Activity.bind_assoc, Activity.bind_pure_map,
      ← passes_structured ρ _ 0 count tab hk, Activity.bind_pure_map]
    simp only [Activity.pure_bind]
    rw [Activity.bind_pure_map, Outcome.map_map]

theorem Repeater.loop_structured (hb : a.flow.blocks[index]? = some b) (hr : b.isRepeater = true)
    (hk : p.skips = 0) :
    (loop a index tab >>= fun r => pure ((r.lastIndex + 1).toNat, r.tab)) h ds s p =
      (Structured.loop a (.ofBlock a.flow.blocks index b) tab >>= fun tab =>
        pure (Run.afterSkipped a.flow.blocks index b, tab)) h ds s p := by
  rw [loop_eq, loopSetup, Structured.loop, hb]
  simp only [Activity.bind_assoc]
  refine Activity.bind_congr rfl fun store s' p' hs => ?_
  cases hs
  have hrep (count : Nat) := repetition_structured (h := h) (s := s) (.ofLoop b count) count ds tab
    hb hr hk
  simp only [Activity.bind_assoc] at hrep
  have hblock : (FlowUnit.ofBlock a.flow.blocks index b).block = b := rfl
  rw [hblock]
  cases loopCount a.engagement.config
    (Mapping.named (Template.interpolateAll p.store b.params) "count") with
  | error f => rfl
  | ok count => exact hrep count.toNat

theorem Repeater.forEach_structured (hb : a.flow.blocks[index]? = some b)
    (hr : b.isRepeater = true) (hk : p.skips = 0) :
    (forEach a index tab >>= fun r => pure ((r.lastIndex + 1).toNat, r.tab)) h ds s p =
      (Structured.forEach a (.ofBlock a.flow.blocks index b) tab >>= fun tab =>
        pure (Run.afterSkipped a.flow.blocks index b, tab)) h ds s p := by
  rw [forEach_eq, forEachSetup, Structured.forEach, hb]
  cases tab.isNone with
  | true => rfl
  | false =>
    simp only [Bool.false_eq_true, if_false, Activity.bind_assoc]
    refine Activity.bind_congr rfl fun store s' p' hs => ?_
    cases hs
    refine Activity.bind_congr rfl fun count s' p' hc => ?_
    have hp : p' = p := by
      rw [Activity.lift_apply] at hc
      exact congrArg (fun r => r.2.2) hc.symm
    subst hp
    have hrep (parent child : String) := repetition_structured (h := h) (s := s')
      (.ofItems b parent child count) count ds tab hb hr hk
    simp only [Activity.bind_assoc] at hrep
    exact hrep ..

/-- A unit by its position is the unit of the reading, and is followed by the next one. -/
theorem Run.unit_structured (ds : List T) (tab : TabRef)
    (hb : a.flow.blocks[index]? = some b) (hk : p.skips = 0) :
    unit a index b tab h ds s p =
      (Structured.unit a (.ofBlock a.flow.blocks index b) tab >>= fun tab =>
        pure (afterSkipped a.flow.blocks index b, tab)) h ds s p := by
  have hblock : (FlowUnit.ofBlock a.flow.blocks index b).block = b := rfl
  have hplain (hr : b.isRepeater = false) : afterSkipped a.flow.blocks index b = index + 1 := by
    rw [afterSkipped, hr]
    rfl
  unfold unit Structured.unit
  rw [hblock]
  cases hkind : b.kind? with
  | none =>
    rw [hplain (by rw [Block.isRepeater, hkind])]
  | some k =>
    have hr : b.isRepeater = k.isRepeater := by rw [Block.isRepeater, hkind]
    cases k with
    | loop => exact Activity.within_bind_congr fun inner s => Repeater.loop_structured hb hr hk
    | forEach =>
      exact Activity.within_bind_congr fun inner s => Repeater.forEach_structured hb hr hk
    | _ => rw [hplain hr]

end Unit

/-! ## The scan -/

theorem Run.scanFrom_over_structured {fuel index : Nat} {tab : TabRef}
    (hi : a.flow.blocks.length ≤ index) :
    (scanFrom a fuel index tab).ensuring Progress.settled h ds s p =
      (Structured.run a p.skips (FlowUnit.read index (a.flow.blocks.drop index)) tab).ensuring
        Progress.settled h ds s p.settled := by
  rw [Activity.ensuring_apply, Activity.ensuring_apply, scanFrom_end hi, FlowUnit.read_over hi,
    Structured.run_nil]
  rfl

/-- The scan from a position runs the units from there on. -/
theorem Run.scanFrom_structured (fuel index : Nat) (tab : TabRef)
    (hf : a.flow.blocks.length ≤ index + fuel) :
    (scanFrom a fuel index tab).ensuring Progress.settled h ds s p =
      (Structured.run a p.skips (FlowUnit.read index (a.flow.blocks.drop index)) tab).ensuring
        Progress.settled h ds s p.settled := by
  -- the bound carries the induction: one step of the scan may go past a whole body
  induction fuel generalizing index tab s p with
  | zero => exact scanFrom_over_structured hf
  | succ fuel ih =>
    cases hb : a.flow.blocks[index]? with
    | none => exact scanFrom_over_structured (List.getElem?_eq_none_iff.1 hb)
    | some b =>
      have hlt := lt_afterSkipped a.flow.blocks index b
      rw [Activity.ensuring_apply, scanFrom_succ hb]
      cases hs : s.control.stopped with
      | true =>
        rw [Activity.ensuring_apply, Structured.run_stopped hs]
        rfl
      | false =>
        cases he : b.enabled with
        | false =>
          rw [FlowUnit.read_disabled hb he, ← ih (index + 1) tab (by omega)]
          rfl
        | true =>
          simp only [Bool.false_eq_true, if_false, Bool.not_true]
          rw [FlowUnit.read_drop hb he]
          cases hk : p.skips with
          | succ n =>
            rw [if_pos (Nat.succ_pos n), Activity.ensuring_apply, Structured.run_leaveOut hs]
            exact ih (p := { p.reaching index with skips := n }) _ tab (by omega)
          | zero =>
            rw [if_neg (Nat.lt_irrefl 0), Activity.ensuring_apply, Progress.settled_of_skips hk]
            have hunit := unit_structured (h := h) (s := heard a (unitStatus a b (p.reached + 1)) s)
              (p := (p.reaching index).reporting (unitStatus a b (p.reached + 1)) s.now)
              ds tab hb hk
            rw [Activity.bind_pure_map] at hunit
            obtain ⟨tab', s', p', hr⟩ | ⟨e, s', p', hr⟩ :=
              Activity.ends (Structured.unit a (.ofBlock a.flow.blocks index b) tab) h ds
                (heard a (unitStatus a b (p.reached + 1)) s)
                ((p.reaching index).reporting (unitStatus a b (p.reached + 1)) s.now)
            · rw [hr] at hunit
              rw [Structured.run_done hs hr, Activity.bind_done hunit]
              exact ih (s := s') (p := p') (afterSkipped a.flow.blocks index b) tab' (by omega)
            · rw [hr] at hunit
              rw [Structured.run_halt hs hr,
                Activity.bind_halt (hunit.trans (by rw [Outcome.map_halt]))]

/-! ## The positions of a scan -/

/-- A scan handles the units in their order; unless it ends early, it handles all of them. -/
theorem Course.Scan.handled_units {index : Nat} {tab : TabRef} {ms : List (Moment W T)}
    {r : Result W T TabRef} (hc : Course.Scan a h ds index tab s p ms r) :
    handled ms <+: (FlowUnit.read index (a.flow.blocks.drop index)).map (·.position) ∧
      ∀ tab', r.1 = .done tab' → r.2.1.control.stopped = false →
        handled ms = (FlowUnit.read index (a.flow.blocks.drop index)).map (·.position) := by
  induction hc with
  | ended hi =>
    rw [FlowUnit.read_over hi]
    refine ⟨?_, fun _ _ _ => rfl⟩
    exact List.nil_prefix
  | stopped hb hs =>
    refine ⟨?_, fun tab' _ hs' => ?_⟩
    · exact List.nil_prefix
    · rw [hs] at hs'
      cases hs'
  | disabled hb hs he hc ih =>
    rw [FlowUnit.read_disabled hb he]
    exact ih
  | @leftOut index b tab s p ms r hb hs he hk hc ih =>
    rw [FlowUnit.read_drop hb he, List.map_cons]
    refine ⟨(List.prefix_cons_inj index).2 ih.1, fun tab' hr hs' => ?_⟩
    exact congrArg (index :: ·) (ih.2 tab' hr hs')
  | @broke index b tab s p ms s' p' e hb hs he hk hu =>
    rw [FlowUnit.read_drop hb he, List.map_cons, handled_unit (hu.inside hk).inner]
    refine ⟨(List.prefix_cons_inj index).2 ?_, fun tab' hr _ => ?_⟩
    · exact List.nil_prefix
    · exact absurd hr (Halt.outcome_ne_done e tab')
  | @ran index b tab s p ms next tab' s' p' ms' r hb hs he hk hu hc ih =>
    rw [hu.next_eq] at ih
    rw [FlowUnit.read_drop hb he, List.map_cons, handled_unit (hu.inside hk).inner]
    refine ⟨(List.prefix_cons_inj index).2 ih.1, fun tab'' hr hs' => ?_⟩
    exact congrArg (index :: ·) (ih.2 tab'' hr hs')

theorem Run.unit_next {index next : Nat} {b : Block} {tab tab' : TabRef} {s' : Scene W T}
    {p' : Progress T} (hr : unit a index b tab h ds s p = (.done (next, tab'), s', p')) :
    next = afterSkipped a.flow.blocks index b := by
  obtain ⟨ms, hc⟩ := Course.exists_unit (a := a) (h := h) ds index b tab s p
  rw [hr] at hc
  exact hc.next_eq

/-- More steps than there are positions left make no difference. -/
theorem Run.scanFrom_bound {index : Nat} (fuel fuel' : Nat) (tab : TabRef)
    (hf : a.flow.blocks.length ≤ index + fuel) (hf' : a.flow.blocks.length ≤ index + fuel') :
    scanFrom a fuel index tab h ds s p = scanFrom a fuel' index tab h ds s p := by
  induction fuel generalizing fuel' index tab s p with
  | zero =>
    have hi : a.flow.blocks.length ≤ index := hf
    rw [scanFrom_end hi, scanFrom_end hi]
  | succ fuel ih =>
    cases hb : a.flow.blocks[index]? with
    | none =>
      have hi := List.getElem?_eq_none_iff.1 hb
      rw [scanFrom_end hi, scanFrom_end hi]
    | some b =>
      have hi := (List.getElem?_eq_some_iff.1 hb).1
      have hlt := lt_afterSkipped a.flow.blocks index b
      cases fuel' with
      | zero => omega
      | succ fuel' =>
        rw [scanFrom_succ hb, scanFrom_succ hb, ih fuel' tab (by omega) (by omega),
          ih fuel' tab (by omega) (by omega)]
        congr 3
        refine Activity.bind_congr rfl fun r s' p' hr => ?_
        have hnext := unit_next hr
        exact ih fuel' r.2 (by omega) (by omega)

/-- What it means that the scan by positions does what the interpreter of the units does. -/
structure Run.RefinesUnits (a : Assignment) (h : Host W T) : Prop where
  /-- It ends as the interpreter does, in the same scene and, but for a count of what would still be
  left out, with the same progress. -/
  same : ∀ (tab : TabRef) (ds : List T) (s : Scene W T) (p : Progress T),
    (scan a tab).ensuring Progress.settled h ds s p =
      (Structured.run a p.skips (FlowUnit.read 0 a.flow.blocks) tab).ensuring
        Progress.settled h ds s p.settled
  course : ∀ (tab : TabRef) (ds : List T) (s : Scene W T) (p : Progress T),
    ∃ ms, Course.Scan a h ds 0 tab s p ms (scan a tab h ds s p)
  /-- It runs or leaves out the units in their order, and all of them when no stop ends it early. -/
  order : ∀ (tab : TabRef) (ds : List T) (s : Scene W T) (p : Progress T)
    (ms : List (Moment W T)), Course.Scan a h ds 0 tab s p ms (scan a tab h ds s p) →
      Course.handled ms <+: (FlowUnit.read 0 a.flow.blocks).map (·.position) ∧
        ∀ tab', (scan a tab h ds s p).1 = .done tab' →
          (scan a tab h ds s p).2.1.control.stopped = false →
            Course.handled ms = (FlowUnit.read 0 a.flow.blocks).map (·.position)
  apart : (FlowUnit.read 0 a.flow.blocks).Pairwise
    fun u v => u.position + u.body.length < v.position
  /-- From a block that is left out it goes on at a later position of the flow or its end, -/
  onward : ∀ (index : Nat) (b : Block), a.flow.blocks[index]? = some b →
    index < afterSkipped a.flow.blocks index b ∧
      afterSkipped a.flow.blocks index b ≤ a.flow.blocks.length
  /-- and from a block that was run at the same one. -/
  next : ∀ (index : Nat) (b : Block) (tab tab' : TabRef) (ds : List T) (s s' : Scene W T)
    (p p' : Progress T) (next : Nat), unit a index b tab h ds s p = (.done (next, tab'), s', p') →
      next = afterSkipped a.flow.blocks index b
  /-- Its bound on the positions that are left never ends it. -/
  bound : ∀ (fuel : Nat) (tab : TabRef) (ds : List T) (s : Scene W T) (p : Progress T),
    a.flow.blocks.length ≤ fuel → scanFrom a fuel 0 tab h ds s p = scan a tab h ds s p

/-- The scan by positions refines the interpreter of the units, for every flow and every host. -/
theorem Run.scan_refines (a : Assignment) (h : Host W T) : RefinesUnits a h where
  same tab ds s p := scanFrom_structured _ 0 tab (Nat.le_add_left ..)
  course tab ds s p := Course.exists_scan ds _ 0 tab s p (Nat.le_add_left ..)
  order tab ds s p ms hc := hc.handled_units
  apart := FlowUnit.read_pairwise ..
  onward index b hb := by
    have hi := (List.getElem?_eq_some_iff.1 hb).1
    exact ⟨lt_afterSkipped .., afterSkipped_le hi b⟩
  next index b tab tab' ds s s' p p' next hr := unit_next hr
  bound fuel tab ds s p hf := scanFrom_bound fuel _ tab (by omega) (by omega)

end BrowserFlow
