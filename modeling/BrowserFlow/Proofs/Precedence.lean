import BrowserFlow.CommandLine.Run
import BrowserFlow.Proofs.Schema

/-!
Whose word counts for a setting: that of the command line, then that of the flow, and otherwise the
setting has its usual value. Settings are compared as values under their names, so one statement
serves all of them.

* `SettingKind.Settles`: what a setting comes to when a mapping is read.
* `Config.ofMapping_value`: what every setting comes to in the configuration of a mapping.
* `Config.ofMapping_toMapping`: a configuration written out and read back.
* `CommandLine.buildConfig_settles`: the configuration of a run.
-/
namespace BrowserFlow
set_option autoImplicit false

/-! ## Keys of mappings -/

namespace Mapping

theorem named?_eq_none {m : Mapping} {name : String} (hm : .text name ∉ m.map Prod.fst) :
    named? m name = none := by
  induction m with
  | nil => rfl
  | cons e rest ih =>
    obtain ⟨key, v⟩ := e
    rw [List.map_cons, List.mem_cons, not_or] at hm
    rw [named?_cons, if_neg (Ne.symm hm.1), ih hm.2]

/-- Where keys are distinct, an entry is the one under its key. -/
theorem named?_of_mem {m : Mapping} (hkeys : (m.map Prod.fst).Nodup) {name : String} {v : Value}
    (hv : (.text name, v) ∈ m) : named? m name = some v := by
  induction m with
  | nil => cases hv
  | cons e rest ih =>
    obtain ⟨key, w⟩ := e
    rw [List.map_cons, List.nodup_cons] at hkeys
    rw [named?_cons]
    obtain heq | hrest := List.mem_cons.1 hv
    · cases heq
      exact if_pos rfl
    · have hne : key ≠ .text name := by
        rintro rfl
        exact hkeys.1 (List.mem_map.2 ⟨_, hrest, rfl⟩)
      rw [if_neg hne, ih hkeys.2 hrest]

theorem keys_insert {m : Mapping} {name : String} (hm : .text name ∈ m.map Prod.fst) (v : Value) :
    (insert m (.text name) v).map Prod.fst = m.map Prod.fst := by
  induction m with
  | nil => cases hm
  | cons e rest ih =>
    obtain ⟨key, w⟩ := e
    by_cases hk : key = .text name
    · rw [insert, if_pos (Value.sameKey_text.2 hk)]
      rfl
    · have hrest : .text name ∈ rest.map Prod.fst :=
        (List.mem_cons.1 hm).resolve_left fun h => hk h.symm
      rw [insert, if_neg (mt Value.sameKey_text.1 hk), List.map_cons, ih hrest]
      rfl

end Mapping

/-! ## Settings as values -/

namespace SettingKind

/-- What a setting comes to: what is given, converted to its kind, or what it was when nothing or
null is given. -/
inductive Settles (k : SettingKind) : (given before after : Value) → Prop
  | kept (v : Value) : Settles k .null v v
  | given {given before after : Value} : given ≠ .null → k.read given = .ok after →
      Settles k given before after

/-- A value that conversion to a kind leaves alone. -/
def Settled (k : SettingKind) (v : Value) : Prop := v ≠ .null ∧ k.read v = .ok v

variable {k : SettingKind} {given before after v : Value}

theorem Settles.of_null (hs : k.Settles .null before after) : after = before := by
  cases hs with
  | kept => rfl
  | given hne => exact absurd rfl hne

theorem Settled.settles (hv : k.Settled v) (hs : k.Settles v before after) : after = v := by
  cases hs with
  | kept => exact absurd rfl hv.1
  | given _ hread => exact Except.ok.inj (hread.symm.trans hv.2)

theorem Settled.float (x : Float) : Settled .seconds (.float x) := ⟨nofun, rfl⟩

theorem Settled.int (n : Int) : Settled .integer (.int n) := ⟨nofun, rfl⟩

theorem Settled.text (s : String) : Settled .text (.text s) := ⟨nofun, rfl⟩

end SettingKind

namespace Config

/-- A setting as a value. -/
def value (c : Config) (name : String) : Value := Mapping.named c.toMapping name

variable {c c' : Config} {name : String} {k : SettingKind}

theorem value_ext (h : ∀ e ∈ settingKinds, c.value e.1 = c'.value e.1) : c = c' := by
  cases c
  cases c'
  simp [settingKinds, value, Mapping.named, toMapping, Mapping.named?_cons] at h
  simp [h]

theorem value_settled (c : Config) : ∀ e ∈ settingKinds, e.2.Settled (c.value e.1) := by
  simp only [settingKinds, List.forall_mem_cons]
  refine ⟨.float _, .float _, .int _, .int _, .int _, .int _, .int _, .int _, .text _, .int _, ?_⟩
  exact fun _ he => absurd he List.not_mem_nil

theorem lookup_settingKinds : ∀ e ∈ settingKinds, settingKinds.lookup e.1 = some e.2 := by decide

/-- Only the setting of this name changes, and it becomes what the value is converted to. -/
def Puts (c : Config) (name : String) (x : Except Fault Value) (c' : Config) : Prop :=
  x = .ok (c'.value name) ∧ ∀ other, other ≠ name → c'.value other = c.value other

theorem puts_map {α : Type} {x : Except Fault α} {put : α → Config} {write : α → Value}
    (hx : x.map put = .ok c') (hself : ∀ a, (put a).value name = write a)
    (hother : ∀ a other, other ≠ name → (put a).value other = c.value other) :
    c.Puts name (x.map write) c' := by
  cases x with
  | error f => cases hx
  | ok a =>
    cases hx
    exact ⟨congrArg Except.ok (hself a).symm, hother a⟩

theorem set_value {v : Value} (hk : (name, k) ∈ settingKinds) (hc : c.set name v = .ok c') :
    c.Puts name (k.read v) c' := by
  simp only [settingKinds, List.mem_cons, Prod.mk.injEq, List.not_mem_nil, or_false] at hk
  obtain ⟨rfl, rfl⟩ | ⟨rfl, rfl⟩ | ⟨rfl, rfl⟩ | ⟨rfl, rfl⟩ | ⟨rfl, rfl⟩ | ⟨rfl, rfl⟩ | ⟨rfl, rfl⟩ |
    ⟨rfl, rfl⟩ | ⟨rfl, rfl⟩ | ⟨rfl, rfl⟩ := hk
  rotate_left 8
  · -- a text is never refused
    cases hc
    refine ⟨rfl, fun other ho => ?_⟩
    simp [value, toMapping, Mapping.named, Mapping.named?_cons, Ne.symm ho]
  all_goals
    refine puts_map hc (fun a => rfl) fun a other ho => ?_
    simp [value, toMapping, Mapping.named, Mapping.named?_cons, Ne.symm ho]

/-! ## Mappings of settings -/

/-- An entry changes the setting that it names. -/
theorem setEntry_value {key v : Value} (hc : c.setEntry key v = .ok c') :
    ∀ e ∈ settingKinds,
      e.2.Settles (if key = .text e.1 then v else .null) (c.value e.1) (c'.value e.1) := by
  intro e he
  obtain ⟨name, k⟩ := e
  cases key with
  | text other =>
    cases hk : settingKinds.lookup other with
    | none => simp [setEntry, hk] at hc
    | some l =>
      obtain ⟨before, after, hsplit, -⟩ := List.lookup_eq_some_iff.1 hk
      have hmem : (other, l) ∈ settingKinds := by simp [hsplit]
      by_cases hv : v = .null
      · subst hv
        simp only [setEntry, hk] at hc
        cases hc
        rw [ite_self]
        exact .kept _
      · have hset : c.set other v = .ok c' := by
          cases v with
          | null => exact absurd rfl hv
          | _ => simpa [setEntry, hk] using hc
        by_cases hname : other = name
        · subst hname
          rw [if_pos rfl]
          exact .given hv (set_value he hset).1
        · have hne : Value.text other ≠ .text name := by simpa using hname
          rw [if_neg hne, (set_value hmem hset).2 name (Ne.symm hname)]
          exact .kept _
  | _ => cases hc

theorem foldlM_value {m : Mapping} (hkeys : (m.map Prod.fst).Nodup)
    (hc : m.foldlM (fun c e => c.setEntry e.1 e.2) c = .ok c') :
    ∀ e ∈ settingKinds, e.2.Settles (Mapping.named m e.1) (c.value e.1) (c'.value e.1) := by
  intro e he
  induction m generalizing c with
  | nil =>
    cases hc
    exact .kept _
  | cons entry rest ih =>
    obtain ⟨key, v⟩ := entry
    rw [List.map_cons, List.nodup_cons] at hkeys
    rw [List.foldlM_cons] at hc
    cases hstep : c.setEntry key v with
    | error f =>
      rw [hstep] at hc
      cases hc
    | ok c₁ =>
      rw [hstep] at hc
      have hfirst := setEntry_value hstep e he
      have hrest := ih hkeys.2 hc
      unfold Mapping.named at hrest ⊢
      rw [Mapping.named?_cons]
      by_cases hkey : key = .text e.1
      · -- the name does not come again
        subst hkey
        rw [Mapping.named?_eq_none hkeys.1] at hrest
        rw [if_pos rfl] at hfirst ⊢
        rw [SettingKind.Settles.of_null hrest]
        exact hfirst
      · rw [if_neg hkey] at hfirst ⊢
        rw [← hfirst.of_null]
        exact hrest

theorem ofMapping_value {m : Mapping} (hkeys : (m.map Prod.fst).Nodup) (hc : ofMapping m = .ok c) :
    ∀ e ∈ settingKinds, e.2.Settles (Mapping.named m e.1) (value {} e.1) (c.value e.1) :=
  foldlM_value hkeys hc

/-! ## Configurations written out -/

/-- The keys of a configuration that is written out. -/
def settingKeys : List Value := settingKinds.map fun e => .text e.1

theorem settingKeys_nodup : settingKeys.Nodup := by decide

/-- A mapping with every setting once, none of which has to be converted. -/
structure WrittenOut (m : Mapping) : Prop where
  keys : m.map Prod.fst = settingKeys
  settled : ∀ e ∈ settingKinds, e.2.Settled (Mapping.named m e.1)

namespace WrittenOut
variable {m : Mapping}

theorem nodup (hm : WrittenOut m) : (m.map Prod.fst).Nodup := by
  rw [hm.keys]
  exact settingKeys_nodup

theorem allows (hm : WrittenOut m) : ∀ e ∈ m, Allows e := by
  intro e he
  have hkey : e.1 ∈ settingKeys := by
    rw [← hm.keys]
    exact List.mem_map_of_mem he
  obtain ⟨⟨name, k⟩, hk, hname⟩ := List.mem_map.1 hkey
  obtain ⟨key, v⟩ := e
  cases hname
  have hsettled := hm.settled _ hk
  rw [Mapping.named, Mapping.named?_of_mem hm.nodup he] at hsettled
  exact ⟨name, k, rfl, lookup_settingKinds _ hk, .inr (SettingKind.takes_iff.2 ⟨_, hsettled.2⟩)⟩

/-- Such a mapping is read as it stands. -/
theorem read (hm : WrittenOut m) :
    ∃ c, ofMapping m = .ok c ∧ ∀ e ∈ settingKinds, c.value e.1 = Mapping.named m e.1 := by
  obtain ⟨c, hc⟩ := ofMapping_of_allows hm.allows
  exact ⟨c, hc, fun e he => (hm.settled e he).settles (ofMapping_value hm.nodup hc e he)⟩

end WrittenOut

theorem writtenOut_toMapping (c : Config) : WrittenOut c.toMapping := ⟨rfl, c.value_settled⟩

theorem ofMapping_toMapping (c : Config) : ofMapping c.toMapping = .ok c := by
  obtain ⟨c', hc', hvalues⟩ := (writtenOut_toMapping c).read
  rw [hc', value_ext hvalues]

/-! ## Changes -/

/-- A mapping with one change; null changes nothing. -/
def change (m : Mapping) (e : String × Value) : Mapping :=
  if e.2 = .null then m else Mapping.insert m (.text e.1) e.2

theorem override_eq (c : Config) (changes : List (String × Value)) :
    c.override changes = ofMapping (changes.foldl change c.toMapping) := rfl

theorem named_change (m : Mapping) (e : String × Value) (name : String) :
    Mapping.named (change m e) name =
      if e.1 = name ∧ e.2 ≠ .null then e.2 else Mapping.named m name := by
  obtain ⟨other, v⟩ := e
  unfold change Mapping.named
  by_cases hv : v = .null
  · simp [hv]
  · by_cases hname : other = name
    · subst hname
      simp [hv, Mapping.named?_insert_self]
    · simp [hv, hname, Mapping.named?_insert_of_ne m v (Ne.symm hname)]

theorem named_change_option {α : Type} {f : α → Value} (hf : ∀ a, f a ≠ .null) (m : Mapping)
    (x : Option α) (other name : String) :
    Mapping.named (change m (other, (x.map f).getD .null)) name =
      if other = name then (x.map f).getD (Mapping.named m name) else Mapping.named m name := by
  rw [named_change]
  cases x with
  | none => simp
  | some a => simp [hf a]

/-- A change that is null, or a value of the setting that it names. -/
def Fits (e : String × Value) : Prop :=
  ∃ k, (e.1, k) ∈ settingKinds ∧ (e.2 = .null ∨ k.Settled e.2)

theorem Fits.seconds {name : String} (hk : (name, .seconds) ∈ settingKinds) (x : Option Float) :
    Fits (name, (x.map Value.float).getD .null) := by
  cases x with
  | none => exact ⟨_, hk, .inl rfl⟩
  | some x => exact ⟨_, hk, .inr (.float x)⟩

theorem Fits.integer {name : String} (hk : (name, .integer) ∈ settingKinds) (n : Option Int) :
    Fits (name, (n.map Value.int).getD .null) := by
  cases n with
  | none => exact ⟨_, hk, .inl rfl⟩
  | some n => exact ⟨_, hk, .inr (.int n)⟩

theorem WrittenOut.change {m : Mapping} (hm : WrittenOut m) {e : String × Value} (he : Fits e) :
    WrittenOut (change m e) := by
  obtain ⟨name, v⟩ := e
  obtain ⟨k, hk, hv⟩ := he
  constructor
  · unfold Config.change
    split
    · exact hm.keys
    · rw [Mapping.keys_insert, hm.keys]
      rw [hm.keys]
      exact List.mem_map_of_mem hk
  · intro e he
    rw [named_change]
    split
    · rename_i hnamed
      obtain ⟨rfl, hne⟩ := hnamed
      have hsame : e.2 = k := by
        have hlookup := lookup_settingKinds e he
        rw [lookup_settingKinds _ hk] at hlookup
        exact (Option.some.inj hlookup).symm
      rw [hsame]
      exact hv.resolve_left hne
    · exact hm.settled e he

theorem WrittenOut.changes {m : Mapping} (hm : WrittenOut m) {changes : List (String × Value)}
    (hfit : ∀ e ∈ changes, Fits e) : WrittenOut (changes.foldl Config.change m) := by
  induction changes generalizing m with
  | nil => exact hm
  | cons e rest ih =>
    rw [List.forall_mem_cons] at hfit
    exact ih (hm.change hfit.1) hfit.2

theorem override_null (c : Config) {changes : List (String × Value)}
    (hnull : ∀ e ∈ changes, e.2 = .null) : c.override changes = .ok c := by
  have hsame : changes.foldl change c.toMapping = c.toMapping := by
    induction changes with
    | nil => rfl
    | cons e rest ih =>
      rw [List.forall_mem_cons] at hnull
      rw [List.foldl_cons, change, if_pos hnull.1]
      exact ih hnull.2
  rw [override_eq, hsame, ofMapping_toMapping]

end Config

/-! ## The configuration of a run -/

namespace FlowFile

/-- The settings of a flow that was loaded may stand there. -/
theorem allows_of_load {origin : Origin} {v : Value} {f : Flow} (hf : load origin v = .ok f) :
    ∀ e ∈ f.settings, Config.Allows e := by
  obtain ⟨m, ms, rfl, hfits, rfl⟩ := fits_of_load hf
  intro e he
  unfold describedFlow Mapping.named at he
  cases hs : Mapping.named? m "settings" with
  | none => simp [hs] at he
  | some settings =>
    obtain ⟨entries, rfl, hall⟩ := hfits.settings settings hs
    simp only [hs] at he
    exact hall e he

end FlowFile

namespace CommandLine

/-- The setting that a flag gives, where there is such a flag and it was given. -/
def RunOptions.flag? (o : RunOptions) (name : String) : Option Value :=
  if name = "block_timeout_sec" then o.blockTimeout.map .float
  else if name = "load_timeout_sec" then o.loadTimeout.map .float
  else if name = "max_retries" then o.maxRetries.map .int
  else if name = "retry_delay_ms" then o.retryDelay.map .int
  else none

/-- The flags as changes of settings. -/
def RunOptions.changes (o : RunOptions) : List (String × Value) :=
  [("block_timeout_sec", (o.blockTimeout.map Value.float).getD .null),
    ("load_timeout_sec", (o.loadTimeout.map Value.float).getD .null),
    ("max_retries", (o.maxRetries.map Value.int).getD .null),
    ("retry_delay_ms", (o.retryDelay.map Value.int).getD .null)]

theorem RunOptions.changes_fit (o : RunOptions) : ∀ e ∈ o.changes, Config.Fits e := by
  unfold changes
  simp only [List.forall_mem_cons]
  exact ⟨.seconds (by decide) _, .seconds (by decide) _, .integer (by decide) _,
    .integer (by decide) _, fun _ he => absurd he List.not_mem_nil⟩

theorem RunOptions.named_changes (o : RunOptions) (m : Mapping) (name : String) :
    Mapping.named (o.changes.foldl Config.change m) name =
      (o.flag? name).getD (Mapping.named m name) := by
  have seconds := @Config.named_change_option Float .float nofun
  have integer := @Config.named_change_option Int .int nofun
  simp only [changes, List.foldl_cons, List.foldl_nil, seconds, integer]
  unfold flag?
  by_cases hblock : name = "block_timeout_sec"
  · simp [hblock]
  by_cases hload : name = "load_timeout_sec"
  · simp [hload]
  by_cases hretries : name = "max_retries"
  · simp [hretries]
  by_cases hdelay : name = "retry_delay_ms"
  · simp [hdelay]
  · simp [hblock, hload, hretries, hdelay, Ne.symm hblock, Ne.symm hload, Ne.symm hretries,
      Ne.symm hdelay]

theorem buildConfig_eq (o : RunOptions) (flow : Flow) :
    buildConfig o flow = (Config.ofMapping flow.settings).bind fun c => c.override o.changes := rfl

/-- Flags only replace settings by values of their kind. -/
theorem override_flags (c : Config) (o : RunOptions) :
    ∃ c', c.override o.changes = .ok c' ∧
      ∀ e ∈ Config.settingKinds, c'.value e.1 = (o.flag? e.1).getD (c.value e.1) := by
  obtain ⟨c', hc', hvalues⟩ := ((Config.writtenOut_toMapping c).changes o.changes_fit).read
  refine ⟨c', hc', fun e he => ?_⟩
  rw [hvalues e he, o.named_changes]
  rfl

section Built
variable {origin : Origin} {v : Value} {flow : Flow}

/-- Settings that the loader has taken are taken again. -/
theorem buildConfig_of_load (hload : FlowFile.load origin v = .ok flow) (o : RunOptions) :
    ∃ own c, Config.ofMapping flow.settings = .ok own ∧ buildConfig o flow = .ok c ∧
      ∀ e ∈ Config.settingKinds, c.value e.1 = (o.flag? e.1).getD (own.value e.1) := by
  obtain ⟨own, hown⟩ := Config.ofMapping_of_allows (FlowFile.allows_of_load hload)
  obtain ⟨c, hc, hvalues⟩ := override_flags own o
  refine ⟨own, c, hown, ?_, hvalues⟩
  rw [buildConfig_eq, hown]
  exact hc

/-- Of a flow that was loaded, a configuration is always built. A flag counts before the setting of
the flow, and that before the usual value; null counts as no setting. Written out and read back, or
overridden with nothing, the configuration stays as it is. -/
theorem buildConfig_settles (hload : FlowFile.load origin v = .ok flow)
    (hkeys : (flow.settings.map Prod.fst).Nodup) (o : RunOptions) :
    ∃ c, buildConfig o flow = .ok c ∧
      (∀ e ∈ Config.settingKinds, ∃ own,
        e.2.Settles (Mapping.named flow.settings e.1) (Config.value {} e.1) own ∧
          c.value e.1 = (o.flag? e.1).getD own) ∧
      Config.ofMapping c.toMapping = .ok c ∧
      ∀ changes, (∀ e ∈ changes, e.2 = .null) → c.override changes = .ok c := by
  obtain ⟨own, c, hown, hc, hvalues⟩ := buildConfig_of_load hload o
  refine ⟨c, hc, fun e he => ?_, c.ofMapping_toMapping, fun _ => c.override_null⟩
  exact ⟨own.value e.1, Config.ofMapping_value hkeys hown e he, hvalues e he⟩

end Built

/-- A flow with settings of all sorts: one to convert, one that is null, and an empty text. -/
def tunedFlow : Value :=
  .record [("name", .text "n"),
    ("settings", .record [("max_retries", .text " 7 "), ("block_timeout_sec", .null),
      ("default_child_selector", .text ""), ("retry_delay_ms", .bool false)]),
    ("blocks", .list [.record [("type", .text "refresh")]])]

theorem buildConfig_settles_tunedFlow :
    ∃ flow, FlowFile.load ⟨"f", "b", ""⟩ tunedFlow = .ok flow ∧
      (flow.settings.map Prod.fst).Nodup ∧
      ∃ c, buildConfig { retryDelay := some 0 } flow = .ok c ∧
        (∀ e ∈ Config.settingKinds, ∃ own,
          e.2.Settles (Mapping.named flow.settings e.1) (Config.value {} e.1) own ∧
            c.value e.1 = (RunOptions.flag? { retryDelay := some 0 } e.1).getD own) ∧
        Config.ofMapping c.toMapping = .ok c ∧
        ∀ changes, (∀ e ∈ changes, e.2 = .null) → c.override changes = .ok c := by
  have hload : FlowFile.load ⟨"f", "b", ""⟩ tunedFlow = .ok
      { name := "n", blocks := [{ type := .text "refresh", id := "block_1" }], id := "f"
        settings := [(.text "max_retries", .text " 7 "), (.text "block_timeout_sec", .null),
          (.text "default_child_selector", .text ""),
          (.text "retry_delay_ms", .bool false)] } := rfl
  have hkeys : ([Value.text "max_retries", .text "block_timeout_sec",
      .text "default_child_selector", .text "retry_delay_ms"]).Nodup := by decide
  exact ⟨_, hload, hkeys, buildConfig_settles hload hkeys _⟩

end CommandLine
end BrowserFlow
