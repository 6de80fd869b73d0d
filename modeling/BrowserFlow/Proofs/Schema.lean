import BrowserFlow.Proofs.Settings

/-!
The schema of flow files as a description: which mappings are flows, and which flow each of them
is. A file without problems is one that the description fits, and it gives the flow that is
described.

* `BlockFits`, `FlowFits`: what a block and a whole file have to be.
* `describedFlow`: the flow that a file describes.
* `FlowFits.load`, `fits_of_load`: a file that fits is loaded as the flow that it describes, and no
  other file is loaded.
-/
namespace BrowserFlow
set_option autoImplicit false

/-! ## Looking up and inserting -/

theorem Value.sameKey_text {key : Value} {name : String} :
    key.sameKey (.text name) = true ↔ key = .text name := by
  cases key <;> simp [sameKey, keyNumber?]

namespace Mapping

theorem named?_cons (key value : Value) (rest : Mapping) (name : String) :
    named? ((key, value) :: rest) name =
      if key = .text name then some value else named? rest name := by
  unfold named? get?
  rw [List.find?_cons]
  by_cases hk : key = .text name
  · rw [if_pos hk, Value.sameKey_text.2 hk]
    rfl
  · have hne : key.sameKey (.text name) = false := by
      rw [← Bool.not_eq_true, Value.sameKey_text]
      exact hk
    rw [if_neg hk, hne]

theorem named?_insert_self (m : Mapping) (name : String) (value : Value) :
    named? (insert m (.text name) value) name = some value := by
  induction m with
  | nil => simp [insert, named?_cons]
  | cons e rest ih =>
    obtain ⟨key, v⟩ := e
    by_cases hk : key = .text name
    · simp [insert, hk, Value.sameKey_text.2, named?_cons]
    · have hne : ¬ key.sameKey (.text name) = true := by rwa [Value.sameKey_text]
      rw [insert, if_neg hne, named?_cons, if_neg hk, ih]

theorem named?_insert_of_ne (m : Mapping) {name other : String} (value : Value)
    (ho : other ≠ name) : named? (insert m (.text name) value) other = named? m other := by
  induction m with
  | nil =>
    have hne : ¬ (Value.text name) = .text other := by simpa using Ne.symm ho
    simp [insert, named?_cons, hne]
  | cons e rest ih =>
    obtain ⟨key, v⟩ := e
    by_cases hk : key = .text name
    · have hne : ¬ key = .text other := by
        rw [hk]
        simpa using Ne.symm ho
      rw [insert, if_pos (Value.sameKey_text.2 hk), named?_cons, named?_cons, if_neg hne,
        if_neg hne]
    · have hne : ¬ key.sameKey (.text name) = true := by rwa [Value.sameKey_text]
      rw [insert, if_neg hne, named?_cons, named?_cons, ih]

end Mapping

namespace FlowFile

/-! ## What a file may say -/

/-- Whether every key is one of some fields. -/
def OnlyFields (fields : List String) (m : Mapping) : Prop :=
  ∀ e ∈ m, ∃ name ∈ fields, e.1 = .text name

def IsName (v : Value) : Prop := ∃ s, v = .text s ∧ s ≠ ""

/-- Nothing at all, a text, or an integer; a boolean is not an integer. -/
def IsId (v : Value) : Prop := v = .null ∨ (∃ s, v = .text s) ∨ ∃ n, v = .int n

def IsParameter (v : Value) : Prop :=
  v = .null ∨ (∃ s, v = .text s) ∨ (∃ n, v = .int n) ∨ (∃ x, v = .float x) ∨ ∃ b, v = .bool b

def IsRepeaterTag (v : Value) : Prop := v = .text "loop" ∨ v = .text "for_each"

/-- A block on its own. -/
structure BlockFits (m : Mapping) : Prop where
  fields : OnlyFields ["id", "type", "params", "enabled"] m
  type : IsName (Mapping.named m "type")
  id : IsId (Mapping.named m "id")
  params : Mapping.named m "params" = .null ∨
    ∃ params, Mapping.named m "params" = .mapping params ∧ ∀ e ∈ params, IsParameter e.2
  enabled : Mapping.named? m "enabled" = none ∨ ∃ b, Mapping.named? m "enabled" = some (.bool b)

/-- The identifier of a block: its own, or its position counted from one. -/
def effectiveId (position : Nat) (m : Mapping) : String :=
  match Mapping.named m "id" with
  | .text s => s
  | .int n => toString n
  | _ => "block_" ++ toString (position + 1)

/-- The block that a mapping describes. -/
def describedBlock (position : Nat) (m : Mapping) : Block where
  type := Mapping.named m "type"
  params := match Mapping.named m "params" with
    | .mapping params => params
    | _ => []
  enabled := Mapping.named? m "enabled" != some (.bool false)
  id := effectiveId position m

/-- The blocks that mappings describe, the first of them at a position. -/
def describedFrom (position : Nat) (ms : List Mapping) : List Block :=
  (ms.zipIdx position).map fun e => describedBlock e.2 e.1

/-- No repeater comes last or right before another one. -/
def HaveBodies (ms : List Mapping) : Prop :=
  ∀ i m, ms[i]? = some m → IsRepeaterTag (Mapping.named m "type") →
    ∃ next, ms[i + 1]? = some next ∧ ¬ IsRepeaterTag (Mapping.named next "type")

/-- The blocks of a file. -/
structure BlocksFit (ms : List Mapping) : Prop where
  nonempty : ms ≠ []
  each : ∀ m ∈ ms, BlockFits m
  ids : (ms.mapIdx effectiveId).Nodup
  bodies : HaveBodies ms

/-- A file, given its blocks. -/
structure FlowFits (m : Mapping) (ms : List Mapping) : Prop where
  fields : OnlyFields ["id", "name", "created_at", "settings", "blocks"] m
  name : IsName (Mapping.named m "name")
  settings : ∀ v, Mapping.named? m "settings" = some v → SettingsFit v
  blocks : Mapping.named m "blocks" = .list (ms.map .mapping)
  each : BlocksFit ms

/-- The flow that a file with its blocks describes. -/
def describedFlow (origin : Origin) (m : Mapping) (ms : List Mapping) : Flow where
  name := (Mapping.named m "name").display
  blocks := ms.mapIdx describedBlock
  id := Flow.textOr (Mapping.named m "id") origin.flowId
  createdAt := Flow.textOr (Mapping.named m "created_at") origin.createdAt
  settings := match Mapping.named m "settings" with
    | .mapping settings => settings
    | _ => []

/-! ## Parts of a block -/

theorem unknownFields_eq_nil {fields : List String} {what path : String} {m : Mapping} :
    unknownFields fields what path m = [] ↔ OnlyFields fields m := by
  unfold unknownFields OnlyFields
  rw [List.map_eq_nil_iff, List.filter_eq_nil_iff]
  refine forall_congr' fun e => forall_congr' fun _ => ?_
  obtain ⟨key, v⟩ := e
  cases key <;> simp [isOneOf]

theorem name?_eq_some {v : Value} {s : String} : name? v = some s ↔ v = .text s ∧ s ≠ "" := by
  cases v with
  | text t =>
    by_cases ht : t = ""
    · simp [name?, ht]
    · simp only [name?, if_neg ht, Option.some.injEq, Value.text.injEq]
      constructor
      · rintro rfl
        exact ⟨rfl, ht⟩
      · exact And.left
  | _ => simp [name?]

theorem isName_iff {v : Value} : IsName v ↔ ∃ s, name? v = some s := by
  simp only [name?_eq_some]
  rfl

section Parts
variable (position : Nat) (path : String) {m : Mapping}

theorem entryType_eq (ht : IsName (Mapping.named m "type")) :
    ∃ tag, Mapping.named m "type" = .text tag ∧ entryType path m = (tag, []) := by
  obtain ⟨tag, htag⟩ := isName_iff.1 ht
  refine ⟨tag, (name?_eq_some.1 htag).1, ?_⟩
  simp [entryType, htag]

theorem entryType_problems : (entryType path m).2 = [] ↔ IsName (Mapping.named m "type") := by
  constructor
  · intro hp
    cases hn : name? (Mapping.named m "type") with
    | some tag => exact isName_iff.2 ⟨tag, hn⟩
    | none => simp [entryType, hn] at hp
  · intro ht
    obtain ⟨tag, -, he⟩ := entryType_eq path ht
    rw [he]

theorem entryId_eq (hid : IsId (Mapping.named m "id")) :
    entryId position path m = (effectiveId position m, []) := by
  obtain h | ⟨s, h⟩ | ⟨n, h⟩ := hid <;> simp [entryId, effectiveId, h]

theorem entryId_problems : (entryId position path m).2 = [] ↔ IsId (Mapping.named m "id") := by
  constructor
  · intro hp
    unfold entryId at hp
    cases hv : Mapping.named m "id" with
    | null => exact .inl rfl
    | text s => exact .inr (.inl ⟨s, rfl⟩)
    | int n => exact .inr (.inr ⟨n, rfl⟩)
    | _ => simp [hv] at hp
  · intro hid
    rw [entryId_eq position path hid]

theorem isScalar_iff {v : Value} : isScalar v = true ↔ IsParameter v := by
  cases v <;> simp [isScalar, IsParameter]

theorem entryParams_problems : (entryParams path m).2 = [] ↔
    Mapping.named m "params" = .null ∨
      ∃ params, Mapping.named m "params" = .mapping params ∧ ∀ e ∈ params, IsParameter e.2 := by
  unfold entryParams
  cases Mapping.named m "params" with
  | mapping params => simp [isScalar_iff]
  | _ => simp

theorem entryParams_eq : (entryParams path m).1 = (describedBlock position m).params := by
  unfold entryParams describedBlock
  cases Mapping.named m "params" <;> rfl

theorem entryEnabled_problems : (entryEnabled path m).2 = [] ↔
    Mapping.named? m "enabled" = none ∨ ∃ b, Mapping.named? m "enabled" = some (.bool b) := by
  unfold entryEnabled
  cases Mapping.named? m "enabled" with
  | none => simp
  | some v => cases v <;> simp

theorem entryEnabled_eq : (entryEnabled path m).1 = (describedBlock position m).enabled := by
  unfold entryEnabled describedBlock
  cases Mapping.named? m "enabled" with
  | none => rfl
  | some v =>
    cases v with
    | bool b => cases b <;> rfl
    | _ => rfl

end Parts

/-! ## Blocks -/

/-- An entry as the block that it becomes. -/
def BlockEntry.toBlock (b : BlockEntry) : Block where
  type := .text b.type
  params := b.params
  enabled := b.enabled
  id := b.id

theorem entry_problems {position : Nat} {seen : List String} {m : Mapping} :
    (entry position seen m).2 = [] ↔ BlockFits m ∧ effectiveId position m ∉ seen := by
  have hrepeated {id : String} {p : Problem} :
      (if seen.contains id = true then [p] else []) = [] ↔ id ∉ seen := by simp
  simp only [entry, List.append_eq_nil_iff, unknownFields_eq_nil, entryType_problems,
    entryId_problems, entryParams_problems, entryEnabled_problems, hrepeated]
  constructor
  · rintro ⟨⟨⟨⟨⟨hfields, htype⟩, hid⟩, hseen⟩, hparams⟩, henabled⟩
    rw [entryId_eq position _ hid] at hseen
    exact ⟨⟨hfields, htype, hid, hparams, henabled⟩, hseen⟩
  · rintro ⟨hm, hseen⟩
    refine ⟨⟨⟨⟨⟨hm.fields, hm.type⟩, hm.id⟩, ?_⟩, hm.params⟩, hm.enabled⟩
    rw [entryId_eq position _ hm.id]
    exact hseen

theorem BlockFits.toBlock_entry {m : Mapping} (hm : BlockFits m) (position : Nat)
    (seen : List String) : (entry position seen m).1.toBlock = describedBlock position m := by
  obtain ⟨tag, htag, htype⟩ := entryType_eq (blockPath position) hm.type
  have hparams := entryParams_eq position (blockPath position) (m := m)
  have henabled := entryEnabled_eq position (blockPath position) (m := m)
  simp only [entry, BlockEntry.toBlock, htype, entryId_eq _ _ hm.id, hparams, henabled]
  rw [← htag]
  rfl

theorem BlockFits.entry_id {m : Mapping} (hm : BlockFits m) (position : Nat) (seen : List String) :
    (entry position seen m).1.id = effectiveId position m :=
  congrArg Block.id (hm.toBlock_entry position seen)

theorem describedFrom_cons (position : Nat) (m : Mapping) (rest : List Mapping) :
    describedFrom position (m :: rest) =
      describedBlock position m :: describedFrom (position + 1) rest := by
  rw [describedFrom, List.zipIdx_cons]
  rfl

theorem entriesFrom_blocks {ms : List Mapping} (hms : ∀ m ∈ ms, BlockFits m) (position : Nat)
    (seen : List String) :
    (entriesFrom position seen (ms.map .mapping)).1.map BlockEntry.toBlock =
      describedFrom position ms := by
  induction ms generalizing position seen with
  | nil => rfl
  | cons m rest ih =>
    obtain ⟨hm, hrest⟩ := List.forall_mem_cons.1 hms
    rw [describedFrom_cons, ← hm.toBlock_entry position seen]
    exact congrArg _ (ih hrest (position + 1) _)

/-- The blocks of a file have no problems of their own just when each of them fits and their
identifiers differ from each other and from those before them. -/
theorem entriesFrom_problems {position : Nat} {seen : List String} {vs : List Value} :
    (entriesFrom position seen vs).2 = [] ↔
      ∃ ms, vs = ms.map .mapping ∧ (∀ m ∈ ms, BlockFits m) ∧
        ((describedFrom position ms).map (·.id)).Nodup ∧
        ∀ id ∈ (describedFrom position ms).map (·.id), id ∉ seen := by
  -- an entry adds its identifier to those seen, so the hypothesis has to cover all of them
  induction vs generalizing position seen with
  | nil =>
    constructor
    · intro hp
      exact ⟨[], rfl, nofun, .nil, nofun⟩
    · intro hms
      rfl
  | cons v rest ih =>
    cases v with
    | mapping m =>
      have happend : (entriesFrom position seen (.mapping m :: rest)).2 =
          (entry position seen m).2 ++
            (entriesFrom (position + 1) ((entry position seen m).1.id :: seen) rest).2 := rfl
      rw [happend, List.append_eq_nil_iff, entry_problems, ih]
      constructor
      · rintro ⟨⟨hm, hseen⟩, ms, rfl, hms, hnodup, hfresh⟩
        rw [hm.entry_id] at hfresh
        refine ⟨m :: ms, rfl, List.forall_mem_cons.2 ⟨hm, hms⟩, ?_, ?_⟩
        · rw [describedFrom_cons, List.map_cons, List.nodup_cons]
          exact ⟨fun hid => hfresh _ hid List.mem_cons_self, hnodup⟩
        · rw [describedFrom_cons, List.map_cons]
          refine List.forall_mem_cons.2 ⟨hseen, fun id hid hmem => ?_⟩
          exact hfresh id hid (List.mem_cons_of_mem _ hmem)
      · rintro ⟨_ | ⟨m', ms⟩, heq, hms, hnodup, hfresh⟩
        · cases heq
        · rw [List.map_cons] at heq
          cases heq
          obtain ⟨hm, hms⟩ := List.forall_mem_cons.1 hms
          rw [describedFrom_cons, List.map_cons] at hnodup hfresh
          obtain ⟨hnew, hnodup⟩ := List.nodup_cons.1 hnodup
          obtain ⟨hseen, hfresh⟩ := List.forall_mem_cons.1 hfresh
          refine ⟨⟨hm, hseen⟩, ms, rfl, hms, hnodup, fun id hid hmem => ?_⟩
          rw [hm.entry_id] at hmem
          obtain rfl | hmem := List.mem_cons.1 hmem
          · exact hnew hid
          · exact hfresh id hid hmem
    | _ =>
      constructor
      · intro hp
        cases hp
      · rintro ⟨_ | ⟨m', ms⟩, heq, -⟩
        · cases heq
        · cases heq

/-! ## Repeaters -/

end FlowFile

theorem Block.isRepeater_iff {b : Block} :
    b.isRepeater = true ↔ FlowFile.IsRepeaterTag b.type := by
  unfold isRepeater kind?
  constructor
  · intro hr
    cases hv : b.type with
    | text s =>
      rw [hv, BlockKind.ofValue?] at hr
      cases hk : BlockKind.ofTag? s with
      | none =>
        rw [hk] at hr
        cases hr
      | some k =>
        have htag : k.tag = s := by simpa using List.find?_some hk
        rw [hk] at hr
        cases k with
        | loop => exact .inl (by rw [← htag]; rfl)
        | forEach => exact .inr (by rw [← htag]; rfl)
        | _ => cases hr
    | _ =>
      rw [hv] at hr
      cases hr
  · rintro (hv | hv) <;> rw [hv] <;> decide

namespace FlowFile

/-- Each repeater of a list of blocks is followed by a block that is none. -/
def EachHasBody (bs : List Block) : Prop :=
  ∀ i b, bs[i]? = some b → b.isRepeater = true → ∃ c, bs[i + 1]? = some c ∧ c.isRepeater = false

theorem eachHasBody_cons {b : Block} {bs : List Block} :
    EachHasBody (b :: bs) ↔
      (b.isRepeater = true → ∃ c, bs[0]? = some c ∧ c.isRepeater = false) ∧ EachHasBody bs := by
  constructor
  · intro h
    exact ⟨h 0 b rfl, fun i c hc => h (i + 1) c hc⟩
  · rintro ⟨hfirst, hrest⟩ (_ | i) c hc hr
    · cases hc
      exact hfirst hr
    · exact hrest i c hc hr

theorem bodyProblems_eq_nil (position : Nat) {es : List BlockEntry} :
    bodyProblems position es = [] ↔ EachHasBody (es.map BlockEntry.toBlock) := by
  have hr (e : BlockEntry) : e.toBlock.isRepeater = e.isRepeater := rfl
  induction es generalizing position with
  | nil =>
    refine ⟨fun _ i b hb => ?_, fun _ => rfl⟩
    cases hb
  | cons e rest ih =>
    rw [List.map_cons, eachHasBody_cons, hr]
    refine Iff.trans ?_ (and_congr_right fun _ => ih (position + 1))
    cases rest with
    | nil => cases h : e.isRepeater <;> simp [bodyProblems, h]
    | cons next rest =>
      cases h : e.isRepeater <;> cases h' : next.isRepeater <;> simp [bodyProblems, h, h', hr]

theorem haveBodies_iff {ms : List Mapping} :
    HaveBodies ms ↔ EachHasBody (ms.mapIdx describedBlock) := by
  have htag (i : Nat) (m : Mapping) :
      (describedBlock i m).isRepeater = true ↔ IsRepeaterTag (Mapping.named m "type") :=
    Block.isRepeater_iff
  unfold HaveBodies EachHasBody
  simp only [List.getElem?_mapIdx, Option.map_eq_some_iff]
  constructor
  · rintro h i b ⟨m, hm, rfl⟩ hb
    obtain ⟨next, hnext, hne⟩ := h i m hm ((htag i m).1 hb)
    refine ⟨_, ⟨next, hnext, rfl⟩, ?_⟩
    rw [← Bool.not_eq_true, htag]
    exact hne
  · intro h i m hm ht
    obtain ⟨c, ⟨next, hnext, rfl⟩, hc⟩ := h i _ ⟨m, hm, rfl⟩ ((htag i m).2 ht)
    refine ⟨next, hnext, ?_⟩
    rw [← htag (i + 1), hc]
    exact Bool.false_ne_true

/-! ## All blocks of a file -/

theorem mapIdx_describedBlock (ms : List Mapping) :
    ms.mapIdx describedBlock = describedFrom 0 ms := by
  rw [List.mapIdx_eq_zipIdx_map]
  rfl

theorem ids_describedFrom (ms : List Mapping) :
    (describedFrom 0 ms).map (·.id) = ms.mapIdx effectiveId := by
  rw [describedFrom, List.map_map, List.mapIdx_eq_zipIdx_map]
  rfl

theorem toBlock_blocks {ms : List Mapping} (hne : ms ≠ []) (hms : ∀ m ∈ ms, BlockFits m) :
    (blocks (.list (ms.map .mapping))).1.map BlockEntry.toBlock = ms.mapIdx describedBlock := by
  have htruthy : Value.isTruthy (.list (ms.map .mapping)) = true := by
    simpa [Value.isTruthy] using hne
  rw [mapIdx_describedBlock, ← entriesFrom_blocks hms 0 [], blocks, htruthy]
  rfl

/-- The blocks of a file have no problems just when they fit. -/
theorem blocks_problems {v : Value} :
    (blocks v).2 = [] ↔ ∃ ms, v = .list (ms.map .mapping) ∧ BlocksFit ms := by
  constructor
  · intro hp
    unfold blocks at hp
    cases htruthy : v.isTruthy with
    | false => simp [htruthy] at hp
    | true =>
      cases v with
      | list vs =>
        simp only [htruthy, Bool.not_true, Bool.false_eq_true, if_false,
          List.append_eq_nil_iff] at hp
        obtain ⟨hentries, hbodies⟩ := hp
        obtain ⟨ms, rfl, hms, hnodup, -⟩ := entriesFrom_problems.1 hentries
        rw [bodyProblems_eq_nil, entriesFrom_blocks hms, ← mapIdx_describedBlock] at hbodies
        rw [ids_describedFrom] at hnodup
        refine ⟨ms, rfl, ?_, hms, hnodup, haveBodies_iff.2 hbodies⟩
        rintro rfl
        cases htruthy
      | _ => simp [htruthy] at hp
  · rintro ⟨ms, rfl, hms⟩
    have htruthy : Value.isTruthy (.list (ms.map .mapping)) = true := by
      simpa [Value.isTruthy] using hms.nonempty
    have hentries : (entriesFrom 0 [] (ms.map .mapping)).2 = [] := by
      refine entriesFrom_problems.2 ⟨ms, rfl, hms.each, ?_, fun id hid => List.not_mem_nil⟩
      rw [ids_describedFrom]
      exact hms.ids
    have hbodies : bodyProblems 0 (entriesFrom 0 [] (ms.map .mapping)).1 = [] := by
      rw [bodyProblems_eq_nil, entriesFrom_blocks hms.each, ← mapIdx_describedBlock]
      exact haveBodies_iff.1 hms.bodies
    simp [blocks, htruthy, hentries, hbodies]

/-! ## From entries to a flow -/

theorem BlockEntry.ofValue_toValue (origin : Origin) (e : BlockEntry) :
    Block.ofValue origin e.toValue = .ok e.toBlock := by
  obtain ⟨id, type, params, enabled⟩ := e
  cases enabled <;> rfl

theorem mapM_entries (origin : Origin) (es : List BlockEntry) :
    (es.map BlockEntry.toValue).mapM (Block.ofValue origin) = .ok (es.map BlockEntry.toBlock) := by
  induction es with
  | nil => rfl
  | cons e rest ih =>
    rw [List.map_cons, List.mapM_cons, BlockEntry.ofValue_toValue, ih]
    rfl

/-- The settings of a file that may stand there, none when it has no settings. -/
theorem settings_toMapping {m : Mapping}
    (hs : ∀ v, Mapping.named? m "settings" = some v → SettingsFit v) :
    (Mapping.named m "settings").toMapping = .ok (match Mapping.named m "settings" with
      | .mapping settings => settings
      | _ => []) := by
  unfold Mapping.named
  cases hv : Mapping.named? m "settings" with
  | none => rfl
  | some v =>
    obtain ⟨settings, rfl, -⟩ := hs v hv
    rfl

theorem FlowFits.ofValue {m : Mapping} {ms : List Mapping} (hm : FlowFits m ms) (origin : Origin)
    {es : List BlockEntry} (hes : es.map BlockEntry.toBlock = ms.mapIdx describedBlock) :
    Flow.ofValue origin
        (.mapping (Mapping.insert m (.text "blocks") (.list (es.map BlockEntry.toValue)))) =
      .ok (describedFlow origin m ms) := by
  -- putting the blocks in leaves every other field as it was
  have hblocks := Mapping.named?_insert_self m "blocks" (.list (es.map BlockEntry.toValue))
  have hother {name : String} (hn : name ≠ "blocks") :
      Mapping.named? (Mapping.insert m (.text "blocks") (.list (es.map BlockEntry.toValue))) name =
        Mapping.named? m name := Mapping.named?_insert_of_ne m _ hn
  have hname : (Mapping.named? m "name").getD (.text "") = Mapping.named m "name" := by
    obtain ⟨s, hs, -⟩ := hm.name
    unfold Mapping.named at hs ⊢
    cases hv : Mapping.named? m "name" with
    | none => simp [hv] at hs
    | some v => rfl
  have hsettings := settings_toMapping hm.settings
  unfold Mapping.named at hsettings
  simp only [Flow.ofValue, Mapping.named, hblocks, hother (by decide : "settings" ≠ "blocks"),
    hother (by decide : "name" ≠ "blocks"), hother (by decide : "id" ≠ "blocks"),
    hother (by decide : "created_at" ≠ "blocks"), hsettings, hname]
  show Except.bind ((es.map BlockEntry.toValue).mapM (Block.ofValue origin)) _ = _
  rw [mapM_entries, hes]
  rfl

/-! ## Loading -/

/-- The problems of the settings in a file that may have none. -/
def settingsIn (m : Mapping) : Except Fault (List Problem) :=
  match Mapping.named? m "settings" with
  | some v => settingsProblems v
  | none => .ok []

/-- All problems of a file, given those of its settings. -/
def problemsWith (settings : List Problem) (m : Mapping) : List Problem :=
  unknownFields flowFields "field" "" m ++ nameProblems (Mapping.named m "name") ++ settings ++
    (blocks (Mapping.named m "blocks")).2

theorem settingsIn_eq_nil {m : Mapping} :
    settingsIn m = .ok [] ↔ ∀ v, Mapping.named? m "settings" = some v → SettingsFit v := by
  unfold settingsIn
  cases Mapping.named? m "settings" with
  | none => simp
  | some v =>
    simp only [Option.some.injEq, forall_eq']
    refine ⟨fun hv => ?_, SettingsFit.problems⟩
    obtain hfit | hexceed | ⟨message, hp⟩ := settingsProblems_cases v
    · exact hfit
    · obtain ⟨f, hf, -⟩ := hexceed.problems
      rw [hf] at hv
      cases hv
    · rw [hp] at hv
      cases hv

theorem nameProblems_eq_nil {v : Value} : nameProblems v = [] ↔ IsName v := by
  rw [isName_iff, nameProblems]
  cases name? v <;> simp

theorem problemsWith_eq_nil {settings : List Problem} {m : Mapping} :
    problemsWith settings m = [] ↔
      OnlyFields flowFields m ∧ IsName (Mapping.named m "name") ∧ settings = [] ∧
        ∃ ms, Mapping.named m "blocks" = .list (ms.map .mapping) ∧ BlocksFit ms := by
  rw [problemsWith, List.append_eq_nil_iff, List.append_eq_nil_iff, List.append_eq_nil_iff,
    unknownFields_eq_nil, nameProblems_eq_nil, blocks_problems, and_assoc, and_assoc]

/-- A file is loaded once it is known what its settings come to. -/
theorem load_mapping (origin : Origin) (m : Mapping) :
    load origin (.mapping m) = (settingsIn m).bind fun settings =>
      if problemsWith settings m ≠ [] then .error (.invalidFlow (problemsWith settings m))
      else Flow.ofValue origin (.mapping (Mapping.insert m (.text "blocks")
        (.list ((blocks (Mapping.named m "blocks")).1.map BlockEntry.toValue)))) := by
  have hthrow {ps : List Problem} {next : Except Fault Flow} :
      (if ps ≠ [] then (throw (.invalidFlow ps) >>= fun _ : PUnit => next) else next) =
        if ps ≠ [] then .error (.invalidFlow ps) else next := by
    split <;> rfl
  simp only [load, settingsIn]
  cases Mapping.named? m "settings" with
  | none => exact hthrow
  | some v => exact bind_congr fun settings => hthrow

theorem FlowFits.load {m : Mapping} {ms : List Mapping} (hm : FlowFits m ms) (origin : Origin) :
    load origin (.mapping m) = .ok (describedFlow origin m ms) := by
  have hproblems : problemsWith [] m = [] :=
    problemsWith_eq_nil.2 ⟨hm.fields, hm.name, rfl, ms, hm.blocks, hm.each⟩
  have hentries : (FlowFile.blocks (Mapping.named m "blocks")).1.map BlockEntry.toBlock =
      ms.mapIdx describedBlock := by
    rw [hm.blocks]
    exact toBlock_blocks hm.each.nonempty hm.each.each
  rw [load_mapping, settingsIn_eq_nil.2 hm.settings]
  exact (if_neg (not_not_intro hproblems)).trans (hm.ofValue origin hentries)

/-- A file that is loaded fits. -/
theorem fits_of_load {origin : Origin} {v : Value} {f : Flow}
    (hf : FlowFile.load origin v = .ok f) :
    ∃ m ms, v = .mapping m ∧ FlowFits m ms ∧ f = describedFlow origin m ms := by
  cases v with
  | mapping m =>
    have hload := hf
    rw [load_mapping] at hload
    cases hs : settingsIn m with
    | error fault =>
      rw [hs] at hload
      cases hload
    | ok settings =>
      rw [hs] at hload
      by_cases hp : problemsWith settings m = []
      · obtain ⟨hfields, hname, rfl, ms, hblocks, hms⟩ := problemsWith_eq_nil.1 hp
        have hm : FlowFits m ms := ⟨hfields, hname, settingsIn_eq_nil.1 hs, hblocks, hms⟩
        rw [hm.load origin] at hf
        cases hf
        exact ⟨m, ms, rfl, hm, rfl⟩
      · have hrejected : Except.error (Fault.invalidFlow (problemsWith settings m)) = .ok f :=
          (if_pos hp).symm.trans hload
        cases hrejected
  | _ => cases hf

/-- A file is loaded as a flow just when it fits and describes that flow. -/
theorem load_eq_ok {origin : Origin} {v : Value} {f : Flow} :
    FlowFile.load origin v = .ok f ↔
      ∃ m ms, v = .mapping m ∧ FlowFits m ms ∧ f = describedFlow origin m ms := by
  refine ⟨fits_of_load, ?_⟩
  rintro ⟨m, ms, rfl, hm, rfl⟩
  exact hm.load origin

-- a block without an identifier is named by its position, an integer by its digits
example (origin : Origin) :
    (FlowFile.load origin (.record [("name", .text "n"), ("blocks", .list [
      .record [("type", .text "loop"), ("enabled", .bool false)],
      .record [("type", .text "refresh"), ("id", .int 7)]])])).toOption.map
        (fun f => f.blocks.map fun b => (b.id, b.enabled)) =
      some [("block_1", false), ("7", true)] := rfl

end FlowFile
end BrowserFlow
