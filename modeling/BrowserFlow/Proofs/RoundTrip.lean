import BrowserFlow.Proofs.Schema

/-!
Flows written out and read back. A flow as a value has every field that the reader would otherwise
fill in, so no origin shows in what is read; and when the flow came out of a file, the value is
again such a file.

* `Block.entries`, `Flow.entries`: the mappings that blocks and flows are written as.
* `Flow.ofValue_toValue`: what is written is read back as it was, whatever the flow.
* `FlowFits.reload`: a flow out of a file is written as a file that fits.
-/
namespace BrowserFlow
set_option autoImplicit false

/-! ## Without checks -/

namespace Block

/-- The entries of a block as a value. -/
def entries (b : Block) : Mapping :=
  [(.text "id", .text b.id), (.text "type", b.type), (.text "params", .mapping b.params),
    (.text "enabled", .bool b.enabled)]

theorem toValue_eq_entries (b : Block) : b.toValue = .mapping b.entries := rfl

theorem ofValue_toValue (origin : Origin) (b : Block) : ofValue origin b.toValue = .ok b := by
  obtain ⟨type, params, enabled, id⟩ := b
  cases enabled <;> rfl

end Block

namespace Flow

/-- The entries of a flow as a value. -/
def entries (f : Flow) : Mapping :=
  [(.text "id", .text f.id), (.text "name", .text f.name), (.text "created_at", .text f.createdAt),
    (.text "blocks", .list (f.blocks.map Block.toValue))] ++
    if f.settings.isEmpty then [] else [(.text "settings", .mapping f.settings)]

theorem toValue_eq_entries (f : Flow) : f.toValue = .mapping f.entries := by
  unfold toValue entries Value.record
  cases f.settings <;> rfl

theorem named?_settings (f : Flow) :
    Mapping.named? f.entries "settings" =
      if f.settings.isEmpty then none else some (.mapping f.settings) := by
  unfold entries
  cases f.settings <;> rfl

theorem mapM_blocks (origin : Origin) (bs : List Block) :
    (bs.map Block.toValue).mapM (Block.ofValue origin) = .ok bs := by
  induction bs with
  | nil => rfl
  | cons b rest ih =>
    rw [List.map_cons, List.mapM_cons, Block.ofValue_toValue, ih]
    rfl

theorem ofValue_toValue (origin : Origin) (f : Flow) : ofValue origin f.toValue = .ok f := by
  have hsettings : (Mapping.named f.entries "settings").toMapping = .ok f.settings := by
    rw [Mapping.named, named?_settings]
    cases f.settings <;> rfl
  rw [toValue_eq_entries, ofValue, hsettings]
  show Except.bind ((f.blocks.map Block.toValue).mapM (Block.ofValue origin)) _ = _
  rw [mapM_blocks]
  rfl

end Flow

/-! ## Through the schema -/

namespace FlowFile

theorem describedBlock_entries (position : Nat) (b : Block) :
    describedBlock position b.entries = b := by
  obtain ⟨type, params, enabled, id⟩ := b
  cases enabled <;> rfl

theorem mapIdx_describedBlock_entries (bs : List Block) :
    (bs.map Block.entries).mapIdx describedBlock = bs := by
  refine List.ext_getElem? fun i => ?_
  simp [List.getElem?_mapIdx, Function.comp_def, describedBlock_entries]

theorem BlockFits.reload {m : Mapping} (hm : BlockFits m) (position : Nat) :
    BlockFits (describedBlock position m).entries where
  fields := by simp [OnlyFields, Block.entries]
  type := hm.type
  id := .inr (.inl ⟨_, rfl⟩)
  params := by
    refine .inr ⟨_, rfl, ?_⟩
    obtain hnull | ⟨params, hparams, hscalar⟩ := hm.params
    · simp [describedBlock, hnull]
    · simpa only [describedBlock, hparams] using hscalar
  enabled := .inr ⟨_, rfl⟩

/-- The blocks out of a file are written as blocks that fit: each has an identifier of its own by
then, so none is named by its position any more. -/
theorem BlocksFit.reload {ms : List Mapping} (hms : BlocksFit ms) :
    BlocksFit ((ms.mapIdx describedBlock).map Block.entries) where
  nonempty := by simpa using hms.nonempty
  each := by
    intro m hm
    obtain ⟨b, hb, rfl⟩ := List.mem_map.1 hm
    obtain ⟨i, hi, rfl⟩ := List.mem_mapIdx.1 hb
    exact (hms.each _ (List.getElem_mem hi)).reload i
  ids := by
    have hids := hms.ids
    rw [← ids_describedFrom, ← mapIdx_describedBlock] at hids
    rwa [← ids_describedFrom, ← mapIdx_describedBlock, mapIdx_describedBlock_entries]
  bodies := by
    rw [haveBodies_iff, mapIdx_describedBlock_entries, ← haveBodies_iff]
    exact hms.bodies

theorem FlowFits.reload {m : Mapping} {ms : List Mapping} (hm : FlowFits m ms) (origin : Origin) :
    FlowFits (describedFlow origin m ms).entries
      ((ms.mapIdx describedBlock).map Block.entries) where
  fields := by
    unfold OnlyFields Flow.entries
    split <;> simp
  name := by
    obtain ⟨s, hs, hne⟩ := hm.name
    refine ⟨s, ?_, hne⟩
    show Value.text (Mapping.named m "name").display = .text s
    rw [hs]
    rfl
  settings := by
    intro v hv
    rw [Flow.named?_settings] at hv
    cases hs : Mapping.named? m "settings" with
    | none => simp [describedFlow, Mapping.named, hs] at hv
    | some own =>
      obtain ⟨settings, rfl, hall⟩ := hm.settings own hs
      have hsettings : (describedFlow origin m ms).settings = settings := by
        simp [describedFlow, Mapping.named, hs]
      rw [hsettings] at hv
      split at hv
      · cases hv
      · cases hv
        exact ⟨settings, rfl, hall⟩
  blocks := by
    rw [List.map_map]
    rfl
  each := hm.each.reload

theorem describedFlow_entries (origin : Origin) (f : Flow) :
    describedFlow origin f.entries (f.blocks.map Block.entries) = f := by
  rw [describedFlow, mapIdx_describedBlock_entries]
  obtain ⟨name, blocks, id, createdAt, settings⟩ := f
  cases settings <;> rfl

/-- Nothing is lost between a flow and what it is written as. -/
theorem reload_keeps (origin origin' : Origin) (v : Value) (f : Flow) :
    (Flow.ofValue origin v = .ok f → Flow.ofValue origin' f.toValue = .ok f) ∧
      (load origin v = .ok f → load origin' f.toValue = .ok f) := by
  refine ⟨fun _ => f.ofValue_toValue origin', fun hf => ?_⟩
  obtain ⟨m, ms, rfl, hm, rfl⟩ := fits_of_load hf
  have hfits := hm.reload origin
  rw [Flow.toValue_eq_entries, hfits.load origin']
  exact congrArg Except.ok (describedFlow_entries origin' (describedFlow origin m ms))

/-- A file that leaves identifiers, the date and parameters to be filled in. -/
theorem reload_keeps_defaults :
    let origin : Origin := ⟨"f0", "b0", "2024-01-01"⟩
    let later : Origin := ⟨"f1", "b1", "2025-01-01"⟩
    let v : Value := .record [("name", .text "n"), ("settings", .mapping []), ("blocks", .list [
      .record [("type", .text "loop"), ("params", .null), ("enabled", .bool false)],
      .record [("type", .text "refresh"), ("id", .int 7)]])]
    let unchecked : Flow :=
      ⟨"n", [⟨.text "loop", [], false, "b0"⟩, ⟨.text "refresh", [], true, "7"⟩],
      "f0", "2024-01-01", []⟩
    let loaded : Flow := ⟨"n", [⟨.text "loop", [], false, "block_1"⟩,
      ⟨.text "refresh", [], true, "7"⟩], "f0", "2024-01-01", []⟩
    (Flow.ofValue origin v = .ok unchecked ∧ Flow.ofValue later unchecked.toValue = .ok unchecked) ∧
      load origin v = .ok loaded ∧ load later loaded.toValue = .ok loaded := by
  intro origin later v unchecked loaded
  have hunchecked : Flow.ofValue origin v = .ok unchecked := rfl
  have hloaded : load origin v = .ok loaded := rfl
  exact ⟨⟨hunchecked, (reload_keeps origin later v unchecked).1 hunchecked⟩, hloaded,
    (reload_keeps origin later v loaded).2 hloaded⟩

end FlowFile
end BrowserFlow
