import BrowserFlow.Proofs.Refinement
import BrowserFlow.Proofs.Schema

/-!
Bodies that are checked twice. The schema looks one entry ahead of a repeater, a run looks for the
longest stretch of blocks behind it; both find a body at the same repeaters. So no repeater of a
flow that was loaded is without a body when a run comes to it.
-/
namespace BrowserFlow
set_option autoImplicit false

/-! ## The two looks at a list -/

namespace BodyRange
variable {blocks : List Block} {index : Nat}

theorem isEmpty_after :
    (after blocks index).isEmpty = false ↔
      ∃ c, blocks[index + 1]? = some c ∧ c.isRepeater = false := by
  have hempty : (after blocks index).isEmpty = false ↔
      (blocks.drop (index + 1)).takeWhile (!·.isRepeater) ≠ [] := by
    rw [isEmpty, decide_eq_false_iff_not, Nat.not_le, ← List.length_pos_iff]
    unfold after
    dsimp only
    omega
  have hnext : blocks[index + 1]? = (blocks.drop (index + 1))[0]? := by
    rw [List.getElem?_drop, Nat.add_zero]
  rw [hempty, hnext]
  cases blocks.drop (index + 1) with
  | nil => simp
  | cons c rest => cases hc : c.isRepeater <;> simp [hc]

theorem ofRepeater_succeeds :
    (∃ r, ofRepeater blocks index = .ok r) ↔ (after blocks index).isEmpty = false := by
  unfold ofRepeater
  dsimp only
  cases (after blocks index).isEmpty with
  | false => simp
  | true => cases blocks[index]? <;> simp

end BodyRange

/-- Every repeater of a list of blocks finds its body. -/
def FindBodies (blocks : List Block) : Prop :=
  ∀ i b, blocks[i]? = some b → b.isRepeater = true →
    ∃ r, BodyRange.ofRepeater blocks i = .ok r

theorem findBodies_iff {blocks : List Block} : FindBodies blocks ↔ FlowFile.EachHasBody blocks := by
  refine forall_congr' fun i => forall_congr' fun b => forall_congr' fun _ =>
    forall_congr' fun _ => ?_
  exact BodyRange.ofRepeater_succeeds.trans BodyRange.isEmpty_after

/-! ## Preparations -/

namespace Repeater
variable {W T : Type} [Clock T] {a : Assignment} {index : Nat} {tab : TabRef} {h : Host W T}
  {ds : List T} {s s' : Scene W T} {p p' : Progress T} {f : Fault}

theorem loopCount_error {c : Config} {raw : Value} (hf : loopCount c raw = .error f) :
    f.kind ≠ .emptyBody := by
  have hint : Parameter.int? raw (some c.defaultLoopCount) = .error f := by
    unfold loopCount at hf
    cases hn : Parameter.int? raw (some c.defaultLoopCount) with
    | error e =>
      rw [hn] at hf
      cases hf
      rfl
    | ok n =>
      rw [hn] at hf
      cases n <;> cases hf
  cases raw with
  | float x =>
    unfold Parameter.int? Parameter.truncate at hint
    dsimp only at hint
    split at hint <;> cases hint <;> decide
  | _ => cases hint

omit [Clock T] in
/-- A loop that has a body fails for another reason, if at all. -/
theorem loopSetup_failed {r : BodyRange} (hr : BodyRange.ofRepeater a.flow.blocks index = .ok r)
    (hf : loopSetup a index h ds s p = (.failed f, s', p')) : f.kind ≠ .emptyBody := by
  unfold loopSetup at hf
  cases hb : a.flow.blocks[index]? with
  | none =>
    rw [hb] at hf
    cases hf
    decide
  | some b =>
    rw [hb] at hf
    obtain hf | ⟨store, s₁, p₁, -, hf⟩ := Activity.bind_eq_failed.1 hf
    · cases hf
    · obtain hf | ⟨count, s₂, p₂, -, hf⟩ := Activity.bind_eq_failed.1 hf
      · cases hcount : loopCount a.engagement.config
            (Mapping.named (Template.interpolateAll store b.params) "count") with
        | error e =>
          rw [hcount] at hf
          cases hf
          exact loopCount_error hcount
        | ok count =>
          rw [hcount] at hf
          cases hf
      · rw [hr] at hf
        cases hf

/-- A for-each that has a body fails for want of one only if the page says so when it is asked for
its items. -/
theorem forEachSetup_failed {r : BodyRange} (hr : BodyRange.ofRepeater a.flow.blocks index = .ok r)
    (hf : forEachSetup a index tab h ds s p = (.failed f, s', p')) (hk : f.kind = .emptyBody) :
    ∃ parent child, itemCount a.engagement tab parent child h ds s () = (.failed f, s', ()) := by
  unfold forEachSetup at hf
  cases htab : tab.isNone with
  | true =>
    rw [htab] at hf
    cases hf
    cases hk
  | false =>
    rw [htab] at hf
    cases hb : a.flow.blocks[index]? with
    | none =>
      rw [hb] at hf
      cases hf
      cases hk
    | some b =>
      rw [hb] at hf
      obtain hf | ⟨store, s₁, p₁, hstore, hf⟩ := Activity.bind_eq_failed.1 hf
      · cases hf
      · cases hstore
        obtain hf | ⟨count, s₂, p₂, -, hf⟩ := Activity.bind_eq_failed.1 hf
        · exact ⟨_, _, Activity.lift_eq_failed hf⟩
        · rw [hr] at hf
          cases hf

end Repeater

/-! ## Flows that were loaded -/

variable {W T : Type} [Clock T]

/-- In a run, every repeater that is started finds its body; what its preparation reports for want
of one comes from the page that was asked for its items. -/
def Engine.FindsBodies (e : Engine) (host : Host W T) (flow : Flow) (tab : TabRef)
    (sink : Option Sink) (initial : List (String × Value)) (world : W) (now : T) : Prop :=
  (∃ ms, e.RunsThrough host flow tab sink initial world now ms) ∧
    ∀ ms, e.RunsThrough host flow tab sink initial world now ms →
      ∀ m ∈ ms, ∀ i b t, m.deed = .start (.top i) b t → b.isRepeater = true →
        BodyRange.ofRepeater flow.blocks i = .ok (BodyRange.after flow.blocks i) ∧
          ∃ prep : Run W T Repeater.Setup,
            Repeater.setup? ⟨flow, e.engagement, sink⟩ b i t = some prep ∧
              ∀ ds s p f s' p', prep host ds s p = (.failed f, s', p') → f.kind = .emptyBody →
                b.kind? = some .forEach ∧ ∃ parent child,
                  Repeater.itemCount e.engagement t parent child host ds s () =
                    (.failed f, s', ())

theorem FindBodies.run {flow : Flow} (hbodies : FindBodies flow.blocks) (e : Engine)
    (host : Host W T) (tab : TabRef) (sink : Option Sink) (initial : List (String × Value))
    (world : W) (now : T) : e.FindsBodies host flow tab sink initial world now := by
  refine ⟨e.exists_runsThrough .., fun ms hms m hm i b t hd hr => ?_⟩
  -- a run starts only what stands at the position that it has come to
  have hb : flow.blocks[i]? = some b := by
    obtain hs | ⟨st, hst, -⟩ | ⟨st, hst⟩ := Course.Flow.sound hms m hm
    · rw [Moment.Sound, hd] at hs
      exact hs
    · rw [hst] at hd
      cases hd
    · rw [hst] at hd
      cases hd
  obtain ⟨r, hrange⟩ := hbodies i b hb hr
  obtain ⟨rfl, -⟩ := BodyRange.ofRepeater_eq_ok hrange
  refine ⟨hrange, ?_⟩
  unfold Repeater.setup?
  unfold Block.isRepeater at hr
  cases hkind : b.kind? with
  | none =>
    rw [hkind] at hr
    cases hr
  | some k =>
    rw [hkind] at hr
    cases k with
    | loop =>
      refine ⟨_, rfl, fun ds s p f s' p' hf hk => ?_⟩
      exact absurd hk (Repeater.loopSetup_failed hrange hf)
    | forEach =>
      exact ⟨_, rfl, fun ds s p f s' p' hf hk => ⟨rfl, Repeater.forEachSetup_failed hrange hf hk⟩⟩
    | _ => cases hr

namespace FlowFile

theorem BlocksFit.findBodies {ms : List Mapping} (hms : BlocksFit ms) :
    FindBodies (ms.mapIdx describedBlock) :=
  findBodies_iff.2 (haveBodies_iff.1 hms.bodies)

theorem ids_describedBlock (ms : List Mapping) :
    (ms.mapIdx describedBlock).map (·.id) = ms.mapIdx effectiveId := by
  rw [mapIdx_describedBlock, ids_describedFrom]

/-- A flow that was loaded has different identifiers and a body behind every repeater, so that no
run of it comes to a repeater without one. The other way round, blocks that fit one by one and have
different identifiers are without problems just when every repeater finds its body. -/
theorem load_findsBodies (origin : Origin) :
    (∀ v f, load origin v = .ok f →
      (f.blocks.map (·.id)).Nodup ∧
      (∀ i b, f.blocks[i]? = some b → b.isRepeater = true →
        (BodyRange.after f.blocks i).isEmpty = false) ∧
      ∀ (W T : Type) [Clock T] (e : Engine) (host : Host W T) (tab : TabRef) (sink : Option Sink)
        (initial : List (String × Value)) (world : W) (now : T),
        e.FindsBodies host f tab sink initial world now) ∧
    ∀ ms : List Mapping, ms ≠ [] → (∀ m ∈ ms, BlockFits m) → (ms.mapIdx effectiveId).Nodup →
      ((blocks (.list (ms.map .mapping))).2 = [] ↔ FindBodies (ms.mapIdx describedBlock)) := by
  constructor
  · intro v f hf
    obtain ⟨m, ms, rfl, hm, rfl⟩ := fits_of_load hf
    have hbodies : FindBodies (describedFlow origin m ms).blocks := hm.each.findBodies
    refine ⟨?_, fun i b hb hr => ?_, fun W T _ e host tab sink initial world now => ?_⟩
    · show ((ms.mapIdx describedBlock).map (·.id)).Nodup
      rw [ids_describedBlock]
      exact hm.each.ids
    · exact BodyRange.ofRepeater_succeeds.1 (hbodies i b hb hr)
    · exact hbodies.run e host tab sink initial world now
  · intro ms hne hms hids
    rw [blocks_problems]
    constructor
    · rintro ⟨ms', heq, hfit⟩
      have hsame : ms = ms' :=
        (List.map_inj_right fun _ _ => Value.mapping.inj).1 (Value.list.inj heq)
      rw [hsame]
      exact hfit.findBodies
    · intro hbodies
      exact ⟨ms, rfl, hne, hms, hids, haveBodies_iff.2 (findBodies_iff.1 hbodies)⟩

end FlowFile
end BrowserFlow
