import BrowserFlow.FlowFile.Schema

/-!
Settings that convert. Each entry of a mapping of settings stands or falls on its own, whatever
settings came before it, so a mapping is taken when each of its entries is, and otherwise its first
bad entry decides the fault. A number beyond what its setting can hold is told apart from a value
that is no number at all.
-/
namespace BrowserFlow
set_option autoImplicit false

/-! ## Single values -/

namespace SettingKind

/-- The values that convert to a kind of setting. -/
inductive Takes : SettingKind → Value → Prop
  | anything (v : Value) : Takes .text v
  | flag (k : SettingKind) (b : Bool) : Takes k (.bool b)
  | whole (n : Int) : Takes .integer (.int n)
  | truncated {x : Float} {b : Decimal.Binary} : Decimal.Reading.ofFloat x = .finite b →
      Takes .integer (.float x)
  | wholeText {s : String} {n : Int} : Decimal.readInt? s.toList = some n →
      Takes .integer (.text s)
  | wholeBytes {bs : List UInt8} {n : Int} :
      (Config.asciiChars? bs).bind Decimal.readInt? = some n → Takes .integer (.bytes bs)
  | double (x : Float) : Takes .seconds (.float x)
  | wholeDouble {n : Int} {x : Float} : Decimal.floatOfInt? n = some x → Takes .seconds (.int n)
  | doubleText {s : String} {x : Float} : Decimal.readFloat? s.toList = some x →
      Takes .seconds (.text s)
  | doubleBytes {bs : List UInt8} {x : Float} :
      (Config.asciiChars? bs).bind Decimal.readFloat? = some x → Takes .seconds (.bytes bs)

/-- The numbers that are beyond a kind of setting. -/
inductive Overflows : SettingKind → Value → Prop
  | infinite {x : Float} {negative : Bool} : Decimal.Reading.ofFloat x = .infinite negative →
      Overflows .integer (.float x)
  | tooLarge {n : Int} : Decimal.floatOfInt? n = none → Overflows .seconds (.int n)

/-- What a value becomes as a setting of a kind. -/
def read : SettingKind → Value → Except Fault Value
  | .seconds, v => (Config.toFloat v).map .float
  | .integer, v => (Config.toInt v).map .int
  | .text, v => .ok (.text v.display)

/-- A conversion without its result. -/
def convert (k : SettingKind) (v : Value) : Except Fault Unit := (k.read v).map fun _ => ()

theorem convert_eq_error_iff {k : SettingKind} {v : Value} {f : Fault} :
    k.convert v = .error f ↔ k.read v = .error f := by
  unfold convert
  cases k.read v <;> simp [Except.map]

theorem Takes.exists_read {k : SettingKind} {v : Value} (hv : k.Takes v) :
    ∃ w, k.read v = .ok w := by
  cases hv with
  | anything v => exact ⟨_, rfl⟩
  | flag k b => cases k <;> exact ⟨_, rfl⟩
  | whole n => exact ⟨_, rfl⟩
  | truncated hx => simp [read, Config.toInt, Parameter.truncate, hx, Except.map]
  | wholeText hn => simp [read, Config.toInt, hn, Except.map]
  | wholeBytes hn => simp [read, Config.toInt, hn, Except.map]
  | double x => exact ⟨_, rfl⟩
  | wholeDouble hx => simp [read, Config.toFloat, Config.intToFloat, hx, Except.map]
  | doubleText hx => simp [read, Config.toFloat, hx, Except.map]
  | doubleBytes hx => simp [read, Config.toFloat, hx, Except.map]

theorem Overflows.read {k : SettingKind} {v : Value} (hv : k.Overflows v) :
    ∃ f, k.read v = .error f ∧ f.kind = .overflow := by
  cases hv with
  | infinite hx =>
    refine ⟨.infinityToInt, ?_, rfl⟩
    simp [SettingKind.read, Config.toInt, Parameter.truncate, hx, Except.map]
  | tooLarge hn =>
    refine ⟨.intTooLarge, ?_, rfl⟩
    simp [SettingKind.read, Config.toFloat, Config.intToFloat, hn, Except.map]

/-- A value converts, is beyond its setting, or is a fault of the value itself. -/
theorem read_cases (k : SettingKind) (v : Value) :
    k.Takes v ∨ k.Overflows v ∨
      ∃ f, k.read v = .error f ∧ (f.kind = .value ∨ f.kind = .wrongType) := by
  cases k with
  | text => exact .inl (.anything v)
  | integer =>
    cases v with
    | bool b => exact .inl (.flag _ b)
    | int n => exact .inl (.whole n)
    | float x =>
      cases hx : Decimal.Reading.ofFloat x with
      | finite b => exact .inl (.truncated hx)
      | infinite negative => exact .inr (.inl (.infinite hx))
      | notANumber =>
        refine .inr (.inr ⟨.nanToInt, ?_, .inl rfl⟩)
        simp [read, Config.toInt, Parameter.truncate, hx, Except.map]
    | text s =>
      cases hn : Decimal.readInt? s.toList with
      | some n => exact .inl (.wholeText hn)
      | none =>
        refine .inr (.inr ⟨.badInt (Config.shortQuote (Text.quoted s)), ?_, .inl rfl⟩)
        simp [read, Config.toInt, hn, Except.map]
    | bytes bs =>
      cases hn : (Config.asciiChars? bs).bind Decimal.readInt? with
      | some n => exact .inl (.wholeBytes hn)
      | none =>
        refine .inr (.inr ⟨.badInt (Config.shortQuote (Text.quotedBytes bs)), ?_, .inl rfl⟩)
        simp [read, Config.toInt, hn, Except.map]
    | _ => exact .inr (.inr ⟨_, rfl, .inr rfl⟩)
  | seconds =>
    cases v with
    | bool b => exact .inl (.flag _ b)
    | float x => exact .inl (.double x)
    | int n =>
      cases hx : Decimal.floatOfInt? n with
      | some x => exact .inl (.wholeDouble hx)
      | none => exact .inr (.inl (.tooLarge hx))
    | text s =>
      cases hx : Decimal.readFloat? s.toList with
      | some x => exact .inl (.doubleText hx)
      | none =>
        refine .inr (.inr ⟨.badFloat (Text.quoted s), ?_, .inl rfl⟩)
        simp [read, Config.toFloat, hx, Except.map]
    | bytes bs =>
      cases hx : (Config.asciiChars? bs).bind Decimal.readFloat? with
      | some x => exact .inl (.doubleBytes hx)
      | none =>
        refine .inr (.inr ⟨.badFloat (Text.quotedBytes bs), ?_, .inl rfl⟩)
        simp [read, Config.toFloat, hx, Except.map]
    | _ => exact .inr (.inr ⟨_, rfl, .inr rfl⟩)

/-- What converts can be taken, and nothing else converts. -/
theorem takes_iff {k : SettingKind} {v : Value} : k.Takes v ↔ ∃ w, k.read v = .ok w := by
  refine ⟨Takes.exists_read, fun ⟨w, hw⟩ => ?_⟩
  obtain ht | ho | ⟨f, hf, -⟩ := k.read_cases v
  · exact ht
  · obtain ⟨f, hf, -⟩ := ho.read
    rw [hf] at hw
    cases hw
  · rw [hf] at hw
    cases hw

theorem convert_eq_ok {k : SettingKind} {v : Value} : k.convert v = .ok () ↔ k.Takes v := by
  rw [takes_iff, convert]
  cases k.read v <;> simp [Except.map]

theorem convert_eq_error {k : SettingKind} {v : Value} {f : Fault} (hv : k.convert v = .error f) :
    k.Overflows v ∨ f.kind = .value ∨ f.kind = .wrongType := by
  have hread := convert_eq_error_iff.1 hv
  obtain ht | ho | ⟨f', hf', hkind⟩ := k.read_cases v
  · obtain ⟨w, hw⟩ := ht.exists_read
    rw [hw] at hread
    cases hread
  · exact .inl ho
  · rw [hf'] at hread
    cases hread
    exact .inr hkind

end SettingKind

/-! ## Entries and mappings -/

namespace Config

/-- An entry of a mapping of settings that may stand there. -/
def Allows (e : Value × Value) : Prop :=
  ∃ name k, e.1 = .text name ∧ settingKinds.lookup name = some k ∧ (e.2 = .null ∨ k.Takes e.2)

/-- An entry with a number beyond what its setting can hold. -/
def Exceeds (e : Value × Value) : Prop :=
  ∃ name k, e.1 = .text name ∧ settingKinds.lookup name = some k ∧ k.Overflows e.2

/-- What an entry comes to, apart from the settings that it changes. -/
def checkEntry (e : Value × Value) : Except Fault Unit :=
  match e.1 with
  | .text name =>
    match settingKinds.lookup name with
    | none => .error (.unknownSetting name)
    | some k =>
      match e.2 with
      | .null => .ok ()
      | v => k.convert v
  | key => .error (.unknownSetting key.display)

theorem checkEntry_known {name : String} {k : SettingKind} {v : Value}
    (hk : settingKinds.lookup name = some k) (hv : v ≠ .null) :
    checkEntry (.text name, v) = k.convert v := by
  cases v with
  | null => exact absurd rfl hv
  | _ => simp [checkEntry, hk]

theorem checkEntry_eq_ok {e : Value × Value} : checkEntry e = .ok () ↔ Allows e := by
  obtain ⟨key, v⟩ := e
  constructor
  · intro he
    cases key with
    | text name =>
      cases hk : settingKinds.lookup name with
      | none =>
        simp only [checkEntry, hk] at he
        cases he
      | some k =>
        refine ⟨name, k, rfl, hk, ?_⟩
        by_cases hv : v = .null
        · exact .inl hv
        · rw [checkEntry_known hk hv] at he
          exact .inr (SettingKind.convert_eq_ok.1 he)
    | _ => cases he
  · rintro ⟨name, k, rfl, hk, hv⟩
    by_cases hnull : v = .null
    · subst hnull
      simp [checkEntry, hk]
    · rw [checkEntry_known hk hnull]
      exact SettingKind.convert_eq_ok.2 (hv.resolve_left hnull)

theorem Exceeds.check {e : Value × Value} (he : Exceeds e) :
    ∃ f, checkEntry e = .error f ∧ f.kind = .overflow := by
  obtain ⟨key, v⟩ := e
  obtain ⟨name, k, rfl, hk, ho⟩ := he
  have hv : v ≠ .null := by
    rintro rfl
    cases ho
  obtain ⟨f, hf, hkind⟩ := ho.read
  refine ⟨f, ?_, hkind⟩
  rw [checkEntry_known hk hv]
  exact SettingKind.convert_eq_error_iff.2 hf

/-- An entry is a fault of its name or its value, unless it exceeds its setting. -/
theorem checkEntry_eq_error {e : Value × Value} {f : Fault} (he : checkEntry e = .error f) :
    Exceeds e ∨ f.kind = .value ∨ f.kind = .wrongType := by
  obtain ⟨key, v⟩ := e
  cases key with
  | text name =>
    cases hk : settingKinds.lookup name with
    | none =>
      simp only [checkEntry, hk] at he
      cases he
      exact .inr (.inl rfl)
    | some k =>
      have hv : v ≠ .null := by
        rintro rfl
        simp [checkEntry, hk] at he
      rw [checkEntry_known hk hv] at he
      obtain ho | hf := SettingKind.convert_eq_error he
      · exact .inl ⟨name, k, rfl, hk, ho⟩
      · exact .inr hf
  | _ =>
    cases he
    exact .inr (.inl rfl)

theorem set_forget {name : String} {k : SettingKind} (hk : settingKinds.lookup name = some k)
    (c : Config) (v : Value) : (c.set name v).map (fun _ => ()) = k.convert v := by
  have forget {α : Type} (x : Except Fault α) (put : α → Config) (write : α → Value) :
      (x.map put).map (fun _ => ()) = (x.map write).map fun _ => () := by cases x <;> rfl
  -- the only place where the settings are gone through one by one
  obtain ⟨before, after, hsplit, -⟩ := List.lookup_eq_some_iff.1 hk
  have hmem : (name, k) ∈ settingKinds := by simp [hsplit]
  simp only [settingKinds, List.mem_cons, Prod.mk.injEq, List.not_mem_nil, or_false] at hmem
  obtain ⟨rfl, rfl⟩ | ⟨rfl, rfl⟩ | ⟨rfl, rfl⟩ | ⟨rfl, rfl⟩ | ⟨rfl, rfl⟩ | ⟨rfl, rfl⟩ | ⟨rfl, rfl⟩ |
    ⟨rfl, rfl⟩ | ⟨rfl, rfl⟩ | ⟨rfl, rfl⟩ := hmem
  · exact forget _ _ _
  · exact forget _ _ _
  · exact forget _ _ _
  · exact forget _ _ _
  · exact forget _ _ _
  · exact forget _ _ _
  · exact forget _ _ _
  · exact forget _ _ _
  · rfl
  · exact forget _ _ _

theorem setEntry_forget (c : Config) (e : Value × Value) :
    (c.setEntry e.1 e.2).map (fun _ => ()) = checkEntry e := by
  obtain ⟨key, v⟩ := e
  cases key with
  | text name =>
    cases hk : settingKinds.lookup name with
    | none => simp [setEntry, checkEntry, hk, Except.map]
    | some k =>
      cases v with
      | null => simp [setEntry, checkEntry, hk, Except.map]
      | _ => simpa [setEntry, checkEntry, hk] using set_forget hk c _
  | _ => rfl

theorem Allows.setEntry {e : Value × Value} (he : Allows e) (c : Config) :
    ∃ c', c.setEntry e.1 e.2 = .ok c' := by
  have hf := c.setEntry_forget e
  rw [checkEntry_eq_ok.2 he] at hf
  cases hs : c.setEntry e.1 e.2 with
  | ok c' => exact ⟨c', rfl⟩
  | error f =>
    rw [hs] at hf
    cases hf

theorem setEntry_of_error {e : Value × Value} {f : Fault} (he : checkEntry e = .error f)
    (c : Config) : c.setEntry e.1 e.2 = .error f := by
  have hf := c.setEntry_forget e
  rw [he] at hf
  cases hs : c.setEntry e.1 e.2 with
  | ok c' =>
    rw [hs] at hf
    cases hf
  | error f' =>
    rw [hs] at hf
    cases hf
    rfl

theorem foldlM_of_allows {m : Mapping} (hm : ∀ e ∈ m, Allows e) (c : Config) :
    ∃ c', m.foldlM (fun c e => c.setEntry e.1 e.2) c = .ok c' := by
  induction m generalizing c with
  | nil => exact ⟨c, rfl⟩
  | cons e rest ih =>
    obtain ⟨he, hrest⟩ := List.forall_mem_cons.1 hm
    obtain ⟨c₁, hc₁⟩ := he.setEntry c
    obtain ⟨c', hc'⟩ := ih hrest c₁
    refine ⟨c', ?_⟩
    rw [List.foldlM_cons, hc₁]
    exact hc'

theorem ofMapping_of_allows {m : Mapping} (hm : ∀ e ∈ m, Allows e) :
    ∃ c, ofMapping m = .ok c := foldlM_of_allows hm {}

/-- The first bad entry decides the fault. -/
theorem ofMapping_of_error {before : Mapping} {e : Value × Value} {f : Fault}
    (hb : ∀ b ∈ before, Allows b) (he : checkEntry e = .error f) (after : Mapping) :
    ofMapping (before ++ e :: after) = .error f := by
  obtain ⟨c, hc⟩ := ofMapping_of_allows hb
  have hsplit : ofMapping (before ++ e :: after) = (ofMapping before).bind fun c =>
      (e :: after).foldlM (fun c e => c.setEntry e.1 e.2) c := List.foldlM_append ..
  rw [hsplit, hc]
  show (e :: after).foldlM (fun c e => c.setEntry e.1 e.2) c = _
  rw [List.foldlM_cons, setEntry_of_error he]
  rfl

theorem allows_or_first (m : Mapping) :
    (∀ e ∈ m, Allows e) ∨
      ∃ before e after f, m = before ++ e :: after ∧ (∀ b ∈ before, Allows b) ∧
        checkEntry e = .error f := by
  induction m with
  | nil => exact .inl fun _ he => absurd he List.not_mem_nil
  | cons e rest ih =>
    cases he : checkEntry e with
    | error f => exact .inr ⟨[], e, rest, f, rfl, fun _ hb => absurd hb List.not_mem_nil, he⟩
    | ok u =>
      have hallows : Allows e := checkEntry_eq_ok.1 he
      obtain hrest | ⟨before, e', after, f, rfl, hb, he'⟩ := ih
      · exact .inl (List.forall_mem_cons.2 ⟨hallows, hrest⟩)
      · exact .inr ⟨e :: before, e', after, f, rfl, List.forall_mem_cons.2 ⟨hallows, hb⟩, he'⟩

end Config

/-! ## Settings of a file -/

namespace FlowFile

/-- What a file may say about settings. -/
def SettingsFit (v : Value) : Prop := ∃ m, v = .mapping m ∧ ∀ e ∈ m, Config.Allows e

/-- The first bad entry of the settings is a number beyond what its setting can hold. -/
def SettingsExceed (v : Value) : Prop :=
  ∃ before e after, v = .mapping (before ++ e :: after) ∧ (∀ b ∈ before, Config.Allows b) ∧
    Config.Exceeds e

theorem SettingsFit.problems {v : Value} (hv : SettingsFit v) : settingsProblems v = .ok [] := by
  obtain ⟨m, rfl, hm⟩ := hv
  obtain ⟨c, hc⟩ := Config.ofMapping_of_allows hm
  simp [settingsProblems, hc]

theorem SettingsExceed.problems {v : Value} (hv : SettingsExceed v) :
    ∃ f, settingsProblems v = .error f ∧ f.kind = .overflow := by
  obtain ⟨before, e, after, rfl, hb, he⟩ := hv
  obtain ⟨f, hf, hkind⟩ := he.check
  refine ⟨f, ?_, hkind⟩
  simp [settingsProblems, Config.ofMapping_of_error hb hf after, hkind]

/-- Settings fit, or they hold a number beyond its setting, or they are one problem. -/
theorem settingsProblems_cases (v : Value) :
    SettingsFit v ∨ SettingsExceed v ∨
      ∃ message, settingsProblems v = .ok [⟨message, "settings", 2⟩] := by
  cases v with
  | mapping m =>
    obtain hm | ⟨before, e, after, f, rfl, hb, he⟩ := Config.allows_or_first m
    · exact .inl ⟨m, rfl, hm⟩
    · obtain hx | hkind := Config.checkEntry_eq_error he
      · exact .inr (.inl ⟨before, e, after, rfl, hb, hx⟩)
      · refine .inr (.inr ⟨f.message, ?_⟩)
        simp [settingsProblems, Config.ofMapping_of_error hb he after, hkind]
  | _ => exact .inr (.inr ⟨_, rfl⟩)

end FlowFile
end BrowserFlow
