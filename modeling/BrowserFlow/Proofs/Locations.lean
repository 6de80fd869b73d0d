import BrowserFlow.Proofs.Rejection
import BrowserFlow.Text.Digit

/-!
Where the problems of a file are reported. What is wrong with an element of the list of blocks is
reported at its own index, whatever its neighbours are, and nothing else is. Repeaters without a
body are looked for among the elements that are mappings, and their indices count only those: they
are the author's indices as long as every element is a mapping.
-/
namespace BrowserFlow.FlowFile
set_option autoImplicit false

/-! ## What can be wrong with an element -/

/-- The identifier that a block goes by: what is written there, or its position counted from one. -/
def knownId (k : Nat) (m : Mapping) : String :=
  match Mapping.named m "id" with
  | .null => "block_" ++ toString (k + 1)
  | v => v.display

/-- A problem of one element, at index `k`, when some identifiers are taken. -/
inductive Flaw (k : Nat) (taken : String → Prop) : Value → Problem → Prop where
  | notMapping {v : Value} (hv : ∀ m, v ≠ .mapping m) :
    Flaw k taken v ⟨"Block must be a dictionary", blockPath k, 2⟩
  | unknownField {m : Mapping} {key value : Value} (he : (key, value) ∈ m)
    (hkey : ∀ name ∈ ["id", "type", "params", "enabled"], key ≠ .text name) :
    Flaw k taken (.mapping m) ⟨"Unknown block field '" ++ key.display ++ "'", blockPath k, 2⟩
  | missingType {m : Mapping} (ht : ¬ IsName (Mapping.named m "type")) :
    Flaw k taken (.mapping m) ⟨"Block missing required 'type' field", blockPath k, 2⟩
  | badId {m : Mapping} (hid : ¬ IsId (Mapping.named m "id")) :
    Flaw k taken (.mapping m)
      ⟨"Block id must be a string, got " ++ (Mapping.named m "id").kind, blockPath k, 2⟩
  | duplicateId {m : Mapping} (hid : taken (knownId k m)) :
    Flaw k taken (.mapping m) ⟨"Duplicate block id '" ++ knownId k m ++ "'", blockPath k, 2⟩
  | badParams {m : Mapping} (hnull : Mapping.named m "params" ≠ .null)
    (hp : ∀ params, Mapping.named m "params" ≠ .mapping params) :
    Flaw k taken (.mapping m) ⟨"'params' must be a dictionary", blockPath k, 2⟩
  | badParameter {m params : Mapping} {key value : Value}
    (hp : Mapping.named m "params" = .mapping params) (he : (key, value) ∈ params)
    (hv : ¬ IsParameter value) :
    Flaw k taken (.mapping m)
      ⟨"Parameter '" ++ key.display ++ "' must be a string, number or boolean",
        blockPath k ++ ".params", 2⟩
  | badEnabled {m : Mapping} {v : Value} (he : Mapping.named? m "enabled" = some v)
    (hv : ∀ b, v ≠ .bool b) :
    Flaw k taken (.mapping m) ⟨"'enabled' must be a boolean", blockPath k, 2⟩

/-- Whether an identifier is that of an element before index `k`. -/
def TakenBefore (vs : List Value) (k : Nat) (id : String) : Prop :=
  ∃ j < k, ∃ m, vs[j]? = some (.mapping m) ∧ knownId j m = id

/-- A problem of the element at index `k` of a list. -/
def FlawAt (vs : List Value) (k : Nat) (p : Problem) : Prop :=
  ∃ v, vs[k]? = some v ∧ Flaw k (TakenBefore vs k) v p

/-- A repeater at index `k` of a list that comes last there or right before another one. -/
inductive LacksBody (vs : List Value) (k : Nat) : Problem → Prop where
  | last {m : Mapping} {tag : String} (hm : vs[k]? = some (.mapping m))
    (ht : Mapping.named m "type" = .text tag) (hr : IsRepeaterTag (.text tag))
    (hk : k + 1 = vs.length) :
    LacksBody vs k ⟨"'" ++ tag ++ "' has no blocks below it to repeat", blockPath k, 2⟩
  | followed {m next : Mapping} {tag nextTag : String} (hm : vs[k]? = some (.mapping m))
    (ht : Mapping.named m "type" = .text tag) (hr : IsRepeaterTag (.text tag))
    (hn : vs[k + 1]? = some (.mapping next)) (hnt : Mapping.named next "type" = .text nextTag)
    (hnr : IsRepeaterTag (.text nextTag)) :
    LacksBody vs k ⟨"'" ++ tag ++ "' is directly followed by '" ++ nextTag ++
      "'; nested repeaters are not supported", blockPath k, 2⟩

/-- Whether a problem is reported at index `k`, of the element or of its parameters. -/
def IsAt (k : Nat) (p : Problem) : Prop := p.path = blockPath k ∨ p.path = blockPath k ++ ".params"

def isMapping : Value → Bool
  | .mapping _ => true
  | _ => false

/-! ## Paths -/

theorem blockPath_injective {j k : Nat} (h : blockPath j = blockPath k) : j = k := by
  unfold blockPath at h
  rw [String.append_left_inj, String.append_right_inj] at h
  exact Text.toString_injective h

theorem blockPath_ne_params (j k : Nat) : blockPath j ≠ blockPath k ++ ".params" := by
  intro h
  have hlast := congrArg (fun s : String => s.toList.reverse.head?) h
  simp [blockPath] at hlast

theorem IsAt.unique {j k : Nat} {p : Problem} (hj : IsAt j p) (hk : IsAt k p) : j = k := by
  obtain hj | hj := hj <;> obtain hk | hk := hk <;> rw [hj] at hk
  · exact blockPath_injective hk
  · exact absurd hk (blockPath_ne_params j k)
  · exact absurd hk.symm (blockPath_ne_params k j)
  · exact blockPath_injective (String.append_left_inj _ |>.1 hk)

/-- The path of an element is longer than the paths of the parts of a file around the blocks. -/
theorem IsAt.path_ne {k : Nat} {p : Problem} (hp : IsAt k p) :
    p.path ≠ "" ∧ p.path ≠ "settings" := by
  have hopen : '[' ∈ p.path.toList := by
    obtain hp | hp := hp <;> rw [hp] <;> simp [blockPath]
  constructor
  · intro he
    rw [he] at hopen
    simp at hopen
  · intro he
    rw [he] at hopen
    simp at hopen

theorem Flaw.isAt {k : Nat} {taken : String → Prop} {v : Value} {p : Problem}
    (hf : Flaw k taken v p) : IsAt k p := by
  cases hf with
  | badParameter => exact .inr rfl
  | _ => exact .inl rfl

theorem LacksBody.isAt {vs : List Value} {k : Nat} {p : Problem} (hp : LacksBody vs k p) :
    IsAt k p := by
  cases hp <;> exact .inl rfl

/-! ## One element -/

theorem mem_unknownFields {fields : List String} {what path : String} {m : Mapping} {p : Problem} :
    p ∈ unknownFields fields what path m ↔ ∃ key value, (key, value) ∈ m ∧
      (∀ name ∈ fields, key ≠ .text name) ∧
        p = ⟨"Unknown " ++ what ++ " '" ++ key.display ++ "'", path, 2⟩ := by
  have hkey (key : Value) :
      isOneOf fields key = false ↔ ∀ name ∈ fields, key ≠ .text name := by
    cases key with
    | text s =>
      simp only [isOneOf, List.contains_eq_mem, decide_eq_false_iff_not, ne_eq, Value.text.injEq]
      exact ⟨fun hs name hn he => hs (he ▸ hn), fun h hs => h s hs rfl⟩
    | _ => simp [isOneOf]
  simp only [unknownFields, List.mem_map, List.mem_filter, Bool.not_eq_true', hkey, Prod.exists]
  constructor
  · rintro ⟨key, value, ⟨he, hk⟩, rfl⟩
    exact ⟨key, value, he, hk, rfl⟩
  · rintro ⟨key, value, he, hk, rfl⟩
    exact ⟨key, value, ⟨he, hk⟩, rfl⟩

section Parts
variable {k : Nat} {path : String} {m : Mapping} {p : Problem}

theorem mem_entryType : p ∈ (entryType path m).2 ↔
    ¬ IsName (Mapping.named m "type") ∧ p = ⟨"Block missing required 'type' field", path, 2⟩ := by
  rw [isName_iff, entryType]
  cases name? (Mapping.named m "type") <;> simp

theorem entryId_fst : (entryId k path m).1 = knownId k m := by
  unfold entryId knownId
  cases Mapping.named m "id" <;> rfl

theorem mem_entryId : p ∈ (entryId k path m).2 ↔ ¬ IsId (Mapping.named m "id") ∧
    p = ⟨"Block id must be a string, got " ++ (Mapping.named m "id").kind, path, 2⟩ := by
  unfold entryId
  cases Mapping.named m "id" <;> simp [IsId]

theorem mem_entryParams : p ∈ (entryParams path m).2 ↔
    (Mapping.named m "params" ≠ .null ∧ (∀ params, Mapping.named m "params" ≠ .mapping params) ∧
        p = ⟨"'params' must be a dictionary", path, 2⟩) ∨
      ∃ params key value, Mapping.named m "params" = .mapping params ∧ (key, value) ∈ params ∧
        ¬ IsParameter value ∧
          p = ⟨"Parameter '" ++ key.display ++ "' must be a string, number or boolean",
            path ++ ".params", 2⟩ := by
  unfold entryParams
  cases Mapping.named m "params" with
  | mapping params =>
    simp only [List.mem_map, List.mem_filter, Prod.exists, ← isScalar_iff, Bool.not_eq_true']
    constructor
    · rintro ⟨key, value, ⟨he, hv⟩, rfl⟩
      exact .inr ⟨params, key, value, rfl, he, by simp [hv], rfl⟩
    · rintro (⟨-, hne, -⟩ | ⟨_, key, value, hp, he, hv, rfl⟩)
      · exact absurd rfl (hne params)
      · cases hp
        exact ⟨key, value, ⟨he, by simpa using hv⟩, rfl⟩
  | _ => simp

theorem mem_entryEnabled : p ∈ (entryEnabled path m).2 ↔
    ∃ v, Mapping.named? m "enabled" = some v ∧ (∀ b, v ≠ .bool b) ∧
      p = ⟨"'enabled' must be a boolean", path, 2⟩ := by
  unfold entryEnabled
  cases Mapping.named? m "enabled" with
  | none => simp
  | some v => cases v <;> simp

end Parts

theorem entry_id (k : Nat) (seen : List String) (m : Mapping) :
    (entry k seen m).1.id = knownId k m := entryId_fst

/-- The problems of a mapping are its flaws. -/
theorem mem_entry {k : Nat} {seen : List String} {m : Mapping} {p : Problem} :
    p ∈ (entry k seen m).2 ↔ Flaw k (· ∈ seen) (.mapping m) p := by
  have hrepeated {id : String} {q : Problem} :
      (p ∈ if seen.contains id = true then [q] else []) ↔ id ∈ seen ∧ p = q := by
    by_cases hid : id ∈ seen <;> simp [hid]
  simp only [entry, List.mem_append, mem_unknownFields, mem_entryType, mem_entryId, hrepeated,
    mem_entryParams, mem_entryEnabled, entryId_fst]
  constructor
  · rintro (((((⟨key, value, he, hk, rfl⟩ | ⟨ht, rfl⟩) | ⟨hid, rfl⟩) | ⟨hid, rfl⟩)
      | ⟨hnull, hp, rfl⟩ | ⟨params, key, value, hp, he, hv, rfl⟩) | ⟨v, he, hv, rfl⟩)
    · exact .unknownField he hk
    · exact .missingType ht
    · exact .badId hid
    · exact .duplicateId hid
    · exact .badParams hnull hp
    · exact .badParameter hp he hv
    · exact .badEnabled he hv
  · intro hf
    cases hf with
    | notMapping hv => exact absurd rfl (hv m)
    | unknownField he hk => exact .inl (.inl (.inl (.inl (.inl ⟨_, _, he, hk, rfl⟩))))
    | missingType ht => exact .inl (.inl (.inl (.inl (.inr ⟨ht, rfl⟩))))
    | badId hid => exact .inl (.inl (.inl (.inr ⟨hid, rfl⟩)))
    | duplicateId hid => exact .inl (.inl (.inr ⟨hid, rfl⟩))
    | badParams hnull hp => exact .inl (.inr (.inl ⟨hnull, hp, rfl⟩))
    | badParameter hp he hv => exact .inl (.inr (.inr ⟨_, _, _, hp, he, hv, rfl⟩))
    | badEnabled he hv => exact .inr ⟨_, he, hv, rfl⟩

/-! ## The elements of a list -/

/-- What is taken at index `i` of a list whose first element stands at a position. -/
def Held (position : Nat) (seen : List String) (vs : List Value) (i : Nat) (id : String) : Prop :=
  id ∈ seen ∨ ∃ j < i, ∃ m, vs[j]? = some (.mapping m) ∧ knownId (position + j) m = id

theorem held_zero (position : Nat) (seen : List String) (vs : List Value) :
    Held position seen vs 0 = (· ∈ seen) := by
  funext id
  simp [Held]

theorem held_nil (vs : List Value) (k : Nat) : Held 0 [] vs k = TakenBefore vs k := by
  funext id
  simp [Held, TakenBefore]

theorem held_mapping (position : Nat) (seen : List String) (m : Mapping) (rest : List Value)
    (i : Nat) : Held position seen (.mapping m :: rest) (i + 1) =
      Held (position + 1) (knownId position m :: seen) rest i := by
  funext id
  refine propext ⟨?_, ?_⟩
  · rintro (hid | ⟨_ | j, hj, m', hm', rfl⟩)
    · exact .inl (List.mem_cons_of_mem _ hid)
    · cases hm'
      exact .inl List.mem_cons_self
    · refine .inr ⟨j, Nat.lt_of_succ_lt_succ hj, m', hm', ?_⟩
      rw [Nat.add_right_comm, Nat.add_assoc]
  · rintro (hid | ⟨j, hj, m', hm', rfl⟩)
    · obtain rfl | hid := List.mem_cons.1 hid
      · exact .inr ⟨0, Nat.succ_pos i, m, rfl, rfl⟩
      · exact .inl hid
    · refine .inr ⟨j + 1, Nat.succ_lt_succ hj, m', hm', ?_⟩
      rw [Nat.add_right_comm, Nat.add_assoc]

theorem held_other (position : Nat) (seen : List String) {v : Value} (hv : ∀ m, v ≠ .mapping m)
    (rest : List Value) (i : Nat) :
    Held position seen (v :: rest) (i + 1) = Held (position + 1) seen rest i := by
  funext id
  refine propext (or_congr_right ⟨?_, ?_⟩)
  · rintro ⟨_ | j, hj, m, hm, rfl⟩
    · exact absurd (Option.some.inj hm) (hv m)
    · refine ⟨j, Nat.lt_of_succ_lt_succ hj, m, hm, ?_⟩
      rw [Nat.add_right_comm, Nat.add_assoc]
  · rintro ⟨j, hj, m, hm, rfl⟩
    refine ⟨j + 1, Nat.succ_lt_succ hj, m, hm, ?_⟩
    rw [Nat.add_right_comm, Nat.add_assoc]

/-- The problems of the elements of a list are the flaws at each index. -/
theorem mem_entriesFrom {position : Nat} {seen : List String} {vs : List Value} {p : Problem} :
    p ∈ (entriesFrom position seen vs).2 ↔
      ∃ i v, vs[i]? = some v ∧ Flaw (position + i) (Held position seen vs i) v p := by
  -- each mapping takes its identifier from the rest, so the hypothesis covers all that are taken
  induction vs generalizing position seen with
  | nil => simp [entriesFrom]
  | cons v rest ih =>
    have hshift (i : Nat) : position + 1 + i = position + (i + 1) := by omega
    have hsplit {taken : Nat → String → Prop} :
        (∃ i w, (v :: rest)[i]? = some w ∧ Flaw (position + i) (taken i) w p) ↔
          Flaw position (taken 0) v p ∨
            ∃ i w, rest[i]? = some w ∧ Flaw (position + 1 + i) (taken (i + 1)) w p := by
      constructor
      · rintro ⟨_ | i, w, hw, hf⟩
        · cases hw
          exact .inl hf
        · rw [← hshift] at hf
          exact .inr ⟨i, w, hw, hf⟩
      · rintro (hf | ⟨i, w, hw, hf⟩)
        · exact ⟨0, v, rfl, hf⟩
        · rw [hshift] at hf
          exact ⟨i + 1, w, hw, hf⟩
    rw [hsplit, held_zero]
    by_cases hv : ∃ m, v = .mapping m
    · obtain ⟨m, rfl⟩ := hv
      have happend : (entriesFrom position seen (.mapping m :: rest)).2 =
          (entry position seen m).2 ++
            (entriesFrom (position + 1) ((entry position seen m).1.id :: seen) rest).2 := rfl
      rw [happend, List.mem_append, mem_entry, entry_id, ih]
      simp only [held_mapping]
    · have hv : ∀ m, v ≠ .mapping m := fun m hm => hv ⟨m, hm⟩
      have hcons : (entriesFrom position seen (v :: rest)).2 =
          ⟨"Block must be a dictionary", blockPath position, 2⟩ ::
            (entriesFrom (position + 1) seen rest).2 := by
        cases v with
        | mapping m => exact absurd rfl (hv m)
        | _ => rfl
      have hown : Flaw position (· ∈ seen) v p ↔
          p = ⟨"Block must be a dictionary", blockPath position, 2⟩ := by
        constructor
        · intro hf
          cases hf with
          | notMapping => rfl
          | _ => exact absurd rfl (hv _)
        · rintro rfl
          exact .notMapping hv
      rw [hcons, List.mem_cons, ih, hown]
      simp only [held_other position seen hv]

theorem mem_entries {vs : List Value} {p : Problem} :
    p ∈ (entriesFrom 0 [] vs).2 ↔ ∃ k, FlawAt vs k p := by
  simp only [mem_entriesFrom, Nat.zero_add, held_nil, FlawAt]

/-! ## Repeaters without a body -/

theorem BlockEntry.isRepeater_iff {e : BlockEntry} :
    e.isRepeater = true ↔ IsRepeaterTag (.text e.type) := Block.isRepeater_iff (b := e.toBlock)

/-- The problems of repeaters in a list of tags, the first of them at a position. -/
inductive TagLacksBody (tags : List String) (position i : Nat) : Problem → Prop where
  | last {tag : String} (ht : tags[i]? = some tag) (hr : IsRepeaterTag (.text tag))
    (hk : i + 1 = tags.length) :
    TagLacksBody tags position i
      ⟨"'" ++ tag ++ "' has no blocks below it to repeat", blockPath (position + i), 2⟩
  | followed {tag nextTag : String} (ht : tags[i]? = some tag) (hr : IsRepeaterTag (.text tag))
    (hnt : tags[i + 1]? = some nextTag) (hnr : IsRepeaterTag (.text nextTag)) :
    TagLacksBody tags position i ⟨"'" ++ tag ++ "' is directly followed by '" ++ nextTag ++
      "'; nested repeaters are not supported", blockPath (position + i), 2⟩

theorem tagLacksBody_succ {tag : String} {tags : List String} {position i : Nat} {p : Problem} :
    TagLacksBody (tag :: tags) position (i + 1) p ↔ TagLacksBody tags (position + 1) i p := by
  have hshift : position + (i + 1) = position + 1 + i := by omega
  constructor
  · intro hp
    cases hp with
    | last ht hr hk =>
      rw [hshift]
      exact .last ht hr (Nat.succ.inj hk)
    | followed ht hr hnt hnr =>
      rw [hshift]
      exact .followed ht hr hnt hnr
  · intro hp
    cases hp with
    | last ht hr hk =>
      rw [← hshift]
      exact .last ht hr (congrArg Nat.succ hk)
    | followed ht hr hnt hnr =>
      rw [← hshift]
      exact .followed ht hr hnt hnr

theorem mem_bodyProblems {position : Nat} {es : List BlockEntry} {p : Problem} :
    p ∈ bodyProblems position es ↔ ∃ i, TagLacksBody (es.map (·.type)) position i p := by
  induction es generalizing position with
  | nil =>
    refine ⟨nofun, ?_⟩
    rintro ⟨i, hp⟩
    cases hp <;> contradiction
  | cons e rest ih =>
    have hsplit : (∃ i, TagLacksBody ((e :: rest).map (·.type)) position i p) ↔
        TagLacksBody ((e :: rest).map (·.type)) position 0 p ∨
          p ∈ bodyProblems (position + 1) rest := by
      rw [ih]
      constructor
      · rintro ⟨_ | i, hp⟩
        · exact .inl hp
        · exact .inr ⟨i, tagLacksBody_succ.1 hp⟩
      · rintro (hp | ⟨i, hp⟩)
        · exact ⟨0, hp⟩
        · exact ⟨i + 1, tagLacksBody_succ.2 hp⟩
    rw [hsplit]
    have hite {c : Prop} [Decidable c] {q : Problem} : (p ∈ if c then [q] else []) ↔ c ∧ p = q := by
      by_cases hc : c <;> simp [hc]
    cases rest with
    | nil =>
      have hlast : bodyProblems position [e] = if e.isRepeater then
          [⟨"'" ++ e.type ++ "' has no blocks below it to repeat", blockPath position, 2⟩]
        else [] := rfl
      rw [hlast, hite, BlockEntry.isRepeater_iff]
      constructor
      · rintro ⟨hr, rfl⟩
        exact .inl (.last rfl hr rfl)
      · rintro (hp | hp)
        · cases hp with
          | last ht hr hk =>
            cases ht
            exact ⟨hr, rfl⟩
          | followed ht hr hnt hnr => cases hnt
        · cases hp
    | cons next rest =>
      rw [bodyProblems, List.mem_append, hite, Bool.and_eq_true, BlockEntry.isRepeater_iff,
        BlockEntry.isRepeater_iff]
      refine or_congr_left ⟨?_, ?_⟩
      · rintro ⟨⟨hr, hnr⟩, rfl⟩
        exact .followed rfl hr rfl hnr
      · intro hp
        cases hp with
        | last ht hr hk => simp at hk
        | followed ht hr hnt hnr =>
          cases ht
          cases hnt
          exact ⟨⟨hr, hnr⟩, rfl⟩

/-- The tag of an element that is a mapping. -/
def tagOf : Value → String
  | .mapping m => (name? (Mapping.named m "type")).getD ""
  | _ => ""

theorem types_entriesFrom (position : Nat) (seen : List String) (vs : List Value) :
    (entriesFrom position seen vs).1.map (·.type) = (vs.filter isMapping).map tagOf := by
  induction vs generalizing position seen with
  | nil => rfl
  | cons v rest ih =>
    cases v with
    | mapping m =>
      have htype : (entry position seen m).1.type = tagOf (.mapping m) := by
        simp only [entry, entryType, tagOf]
        cases name? (Mapping.named m "type") <;> rfl
      rw [List.filter_cons_of_pos rfl, List.map_cons, ← htype]
      exact congrArg _ (ih _ _)
    | _ => exact ih _ _

theorem tagOf_eq {v : Value} {tag : String} (hr : IsRepeaterTag (.text tag)) :
    tagOf v = tag ↔ ∃ m, v = .mapping m ∧ Mapping.named m "type" = .text tag := by
  have hne : tag ≠ "" := by
    rintro rfl
    simp [IsRepeaterTag] at hr
  constructor
  · rintro rfl
    cases v with
    | mapping m =>
      refine ⟨m, rfl, ?_⟩
      cases hn : name? (Mapping.named m "type") with
      | none => simp [tagOf, hn] at hne
      | some tag =>
        rw [(name?_eq_some.1 hn).1, tagOf, hn]
        rfl
    | _ => exact absurd rfl hne
  · rintro ⟨m, rfl, ht⟩
    rw [tagOf, name?_eq_some.2 ⟨ht, hne⟩]
    rfl

/-- Bodies are missed where a repeater comes last, or right before another one, among the elements
that are mappings. -/
theorem mem_bodies {vs : List Value} {p : Problem} :
    p ∈ bodyProblems 0 (entriesFrom 0 [] vs).1 ↔ ∃ k, LacksBody (vs.filter isMapping) k p := by
  rw [mem_bodyProblems, types_entriesFrom]
  refine exists_congr fun k => ?_
  have htag {i : Nat} {tag : String} (hr : IsRepeaterTag (.text tag)) :
      ((vs.filter isMapping).map tagOf)[i]? = some tag ↔ ∃ m,
        (vs.filter isMapping)[i]? = some (.mapping m) ∧ Mapping.named m "type" = .text tag := by
    simp only [List.getElem?_map, Option.map_eq_some_iff, tagOf_eq hr]
    constructor
    · rintro ⟨_, hv, m, rfl, ht⟩
      exact ⟨m, hv, ht⟩
    · rintro ⟨m, hv, ht⟩
      exact ⟨_, hv, m, rfl, ht⟩
  constructor
  · intro hp
    cases hp with
    | last ht hr hk =>
      obtain ⟨m, hm, ht⟩ := (htag hr).1 ht
      rw [List.length_map] at hk
      rw [Nat.zero_add]
      exact .last hm ht hr hk
    | followed ht hr hnt hnr =>
      obtain ⟨m, hm, ht⟩ := (htag hr).1 ht
      obtain ⟨next, hn, hnt⟩ := (htag hnr).1 hnt
      rw [Nat.zero_add]
      exact .followed hm ht hr hn hnt hnr
  · intro hp
    cases hp with
    | last hm ht hr hk =>
      have hk : k + 1 = ((vs.filter isMapping).map tagOf).length := by rwa [List.length_map]
      have hp : TagLacksBody _ 0 k _ := .last ((htag hr).2 ⟨_, hm, ht⟩) hr hk
      rwa [Nat.zero_add] at hp
    | followed hm ht hr hn hnt hnr =>
      have hp : TagLacksBody _ 0 k _ := .followed ((htag hr).2 ⟨_, hm, ht⟩) hr
        ((htag hnr).2 ⟨_, hn, hnt⟩) hnr
      rwa [Nat.zero_add] at hp

/-! ## Whole files -/

/-- What is reported at an index of the list of blocks. -/
theorem mem_blocks {vs : List Value} {k : Nat} {p : Problem} (hp : IsAt k p) :
    p ∈ (blocks (.list vs)).2 ↔ FlawAt vs k p ∨ LacksBody (vs.filter isMapping) k p := by
  have hindex : (p ∈ (entriesFrom 0 [] vs).2 ∨ p ∈ bodyProblems 0 (entriesFrom 0 [] vs).1) ↔
      FlawAt vs k p ∨ LacksBody (vs.filter isMapping) k p := by
    rw [mem_entries, mem_bodies]
    refine or_congr ⟨?_, fun hf => ⟨k, hf⟩⟩ ⟨?_, fun hb => ⟨k, hb⟩⟩
    · rintro ⟨j, v, hv, hf⟩
      obtain rfl := hf.isAt.unique hp
      exact ⟨v, hv, hf⟩
    · rintro ⟨j, hb⟩
      obtain rfl := hb.isAt.unique hp
      exact hb
  rw [← hindex]
  cases vs with
  | nil =>
    have hempty : (blocks (.list [])).2 =
      [⟨"'blocks' field is required and must not be empty", "", 2⟩] := rfl
    rw [hempty, List.mem_singleton]
    refine ⟨?_, ?_⟩
    · rintro rfl
      exact absurd rfl hp.path_ne.1
    · rintro (h | h) <;> cases h
  | cons v rest =>
    have hlist : (blocks (.list (v :: rest))).2 = (entriesFrom 0 [] (v :: rest)).2 ++
      bodyProblems 0 (entriesFrom 0 [] (v :: rest)).1 := rfl
    rw [hlist, List.mem_append]

/-- Outside the blocks nothing is reported at an index. -/
theorem mem_problemsWith {settings : List Problem} {m : Mapping} {k : Nat} {p : Problem}
    (hs : ∀ q ∈ settings, q.path = "settings") (hp : IsAt k p) :
    p ∈ problemsWith settings m ↔ p ∈ (blocks (Mapping.named m "blocks")).2 := by
  have hfields : p ∉ unknownFields flowFields "field" "" m := by
    rw [mem_unknownFields]
    rintro ⟨key, value, -, -, rfl⟩
    exact hp.path_ne.1 rfl
  have hname : p ∉ nameProblems (Mapping.named m "name") := by
    unfold nameProblems
    split
    · exact List.not_mem_nil
    · rw [List.mem_singleton]
      rintro rfl
      exact hp.path_ne.1 rfl
  have hsettings : p ∉ settings := fun hmem => hp.path_ne.2 (hs p hmem)
  rw [problemsWith, List.mem_append, List.mem_append, List.mem_append]
  simp only [hfields, hname, hsettings, false_or]

theorem settingsIn_path {m : Mapping} (hm : ¬ HasExcess (.mapping m)) :
    ∃ settings, settingsIn m = .ok settings ∧ ∀ q ∈ settings, q.path = "settings" := by
  unfold settingsIn
  cases hv : Mapping.named? m "settings" with
  | none => exact ⟨[], rfl, nofun⟩
  | some v =>
    obtain hfit | hexceed | ⟨message, hp⟩ := settingsProblems_cases v
    · exact ⟨[], hfit.problems, nofun⟩
    · exact absurd ⟨m, v, rfl, hv, hexceed⟩ hm
    · refine ⟨_, hp, ?_⟩
      rintro q hq
      rw [List.mem_singleton.1 hq]

/-- A file whose settings can be held is turned away with all its problems when it has any. -/
theorem load_eq_invalidFlow {m : Mapping} (hm : ¬ HasExcess (.mapping m)) :
    ∃ settings, (∀ q ∈ settings, q.path = "settings") ∧ ∀ origin,
      (problemsWith settings m ≠ [] →
        load origin (.mapping m) = .error (.invalidFlow (problemsWith settings m))) ∧
      ∀ ps, load origin (.mapping m) = .error (.invalidFlow ps) → ps = problemsWith settings m := by
  obtain ⟨settings, hs, hpath⟩ := settingsIn_path hm
  refine ⟨settings, hpath, fun origin => ?_⟩
  have hload : problemsWith settings m ≠ [] →
      load origin (.mapping m) = .error (.invalidFlow (problemsWith settings m)) := by
    intro hp
    rw [load_mapping, hs]
    exact if_pos hp
  refine ⟨hload, fun ps hps => ?_⟩
  by_cases hp : problemsWith settings m = []
  · obtain ⟨hfields, hname, rfl, ms, hblocks, hms⟩ := problemsWith_eq_nil.1 hp
    have hfits : FlowFits m ms := ⟨hfields, hname, settingsIn_eq_nil.1 hs, hblocks, hms⟩
    rw [hfits.load origin] at hps
    cases hps
  · rw [hload hp] at hps
    cases hps
    rfl

/-- Exactly the flaws of an element are reported at its index, and so are the repeaters without a
body at theirs, in the list where bodies are looked for. -/
def PointsAt (bodies vs : List Value) (result : Except Fault Flow) : Prop :=
  (∀ ps, result = .error (.invalidFlow ps) →
    ∀ k p, IsAt k p → (p ∈ ps ↔ FlawAt vs k p ∨ LacksBody bodies k p)) ∧
  ∀ k p, FlawAt vs k p ∨ LacksBody bodies k p → ∃ ps, result = .error (.invalidFlow ps) ∧ p ∈ ps

theorem pointsAt_load (origin : Origin) {m : Mapping} {vs : List Value}
    (hb : Mapping.named m "blocks" = .list vs) (hm : ¬ HasExcess (.mapping m)) :
    PointsAt (vs.filter isMapping) vs (load origin (.mapping m)) := by
  obtain ⟨settings, hpath, hload⟩ := load_eq_invalidFlow hm
  have hmem {k : Nat} {p : Problem} (hp : IsAt k p) : p ∈ problemsWith settings m ↔
      FlawAt vs k p ∨ LacksBody (vs.filter isMapping) k p := by
    rw [mem_problemsWith hpath hp, hb, mem_blocks hp]
  refine ⟨fun ps hps k p hp => ?_, fun k p hp => ?_⟩
  · rw [(hload origin).2 ps hps, hmem hp]
  · have hat : IsAt k p := by
      obtain ⟨v, -, hf⟩ | hbody := hp
      · exact hf.isAt
      · exact hbody.isAt
    have hreported : p ∈ problemsWith settings m := (hmem hat).2 hp
    exact ⟨_, (hload origin).1 (List.ne_nil_of_mem hreported), hreported⟩

/-- Problems are located by the index of their element, those of missing bodies by the index among
the mappings, which is that of the element when all elements are mappings. -/
theorem load_locates (origin : Origin) {m : Mapping} {vs : List Value}
    (hb : Mapping.named m "blocks" = .list vs) (hm : ¬ HasExcess (.mapping m)) :
    PointsAt (vs.filter isMapping) vs (load origin (.mapping m)) ∧
      ((∀ v ∈ vs, isMapping v = true) → PointsAt vs vs (load origin (.mapping m))) := by
  have hpoints := pointsAt_load origin hb hm
  refine ⟨hpoints, fun hvs => ?_⟩
  rwa [List.filter_eq_self.2 hvs] at hpoints

/-- A list whose first element is no mapping and whose last one is a loop. -/
def strayFirst : List Value :=
  [.text "junk", .record [("type", .text "click")], .record [("type", .text "loop")]]

def strayFile : Mapping :=
  [(.text "name", .text "n"), (.text "blocks", .list strayFirst)]

theorem not_hasExcess_strayFile : ¬ HasExcess (.mapping strayFile) := by
  rintro ⟨m, settings, hm, hs, -⟩
  cases hm
  cases hs

theorem load_locates_strayFile :
    Mapping.named strayFile "blocks" = .list strayFirst ∧ ¬ HasExcess (.mapping strayFile) ∧
      PointsAt (strayFirst.filter isMapping) strayFirst (load ⟨"", "", ""⟩ (.mapping strayFile)) :=
  have hpoints := load_locates ⟨"", "", ""⟩ rfl not_hasExcess_strayFile
  ⟨rfl, not_hasExcess_strayFile, hpoints.1⟩

/-- The element before the loop has nothing wrong with it. -/
theorem not_flawAt_strayFirst (p : Problem) : ¬ FlawAt strayFirst 1 p := by
  rintro ⟨v, hv, hf⟩
  cases hv
  cases hf with
  | notMapping hv => exact hv _ rfl
  | unknownField he hkey =>
    cases List.mem_singleton.1 he
    exact hkey "type" (by decide) rfl
  | missingType ht => exact ht ⟨"click", rfl, by decide⟩
  | badId hid => exact hid (.inl rfl)
  | duplicateId hid =>
    obtain ⟨j, hj, m, hm, -⟩ := hid
    obtain rfl : j = 0 := by omega
    cases hm
  | badParams hnull hp => exact hnull rfl
  | badParameter hp he hv => cases hp
  | badEnabled he hv => cases he

theorem not_lacksBody_strayFirst (p : Problem) : ¬ LacksBody strayFirst 1 p := by
  have hclick {m : Mapping} {tag : String} (hm : strayFirst[1]? = some (.mapping m))
      (ht : Mapping.named m "type" = .text tag) : ¬ IsRepeaterTag (.text tag) := by
    cases hm
    rw [← ht]
    simp [IsRepeaterTag, Mapping.named, Mapping.named?_cons]
  intro hp
  cases hp with
  | last hm ht hr hk => exact hclick hm ht hr
  | followed hm ht hr hn hnt hnr => exact hclick hm ht hr

theorem not_own_index : ¬ ∀ origin m vs, Mapping.named m "blocks" = .list vs →
    ¬ HasExcess (.mapping m) → PointsAt vs vs (load origin (.mapping m)) := by
  intro hall
  obtain ⟨hreported, -⟩ := hall ⟨"", "", ""⟩ strayFile strayFirst rfl not_hasExcess_strayFile
  have hload : load ⟨"", "", ""⟩ (.mapping strayFile) = .error (.invalidFlow
      [⟨"Block must be a dictionary", "blocks[0]", 2⟩,
        ⟨"'loop' has no blocks below it to repeat", "blocks[1]", 2⟩]) := rfl
  have hlast := (hreported _ hload 1 ⟨"'loop' has no blocks below it to repeat", "blocks[1]", 2⟩
    (.inl rfl)).1 (List.mem_cons_of_mem _ List.mem_cons_self)
  obtain hf | hbody := hlast
  · exact not_flawAt_strayFirst _ hf
  · exact not_lacksBody_strayFirst _ hbody

end BrowserFlow.FlowFile
