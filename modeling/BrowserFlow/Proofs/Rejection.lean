import BrowserFlow.CommandLine.Run
import BrowserFlow.Proofs.Schema

/-!
How files are turned away. A value that is no flow is reported with its problems, each of them with
the exit code of bad input, except when its settings hold a number beyond what the setting can
hold: then the fault of the conversion itself comes out.
-/
namespace BrowserFlow.FlowFile
set_option autoImplicit false

/-- Problems of bad input. -/
def BadInput (ps : List Problem) : Prop := ∀ p ∈ ps, p.exitCode = 2

theorem BadInput.nil : BadInput [] := fun _ hp => absurd hp List.not_mem_nil

theorem BadInput.cons {p : Problem} {ps : List Problem} (hp : p.exitCode = 2) (hps : BadInput ps) :
    BadInput (p :: ps) := List.forall_mem_cons.2 ⟨hp, hps⟩

theorem BadInput.append {ps qs : List Problem} (hps : BadInput ps) (hqs : BadInput qs) :
    BadInput (ps ++ qs) := List.forall_mem_append.2 ⟨hps, hqs⟩

theorem BadInput.map {α : Type} {g : α → Problem} (hg : ∀ a, (g a).exitCode = 2) (as : List α) :
    BadInput (as.map g) := by
  intro p hp
  obtain ⟨a, -, rfl⟩ := List.mem_map.1 hp
  exact hg a

theorem BadInput.ite {c : Prop} [Decidable c] {p : Problem} (hp : p.exitCode = 2) :
    BadInput (if c then [p] else []) := by
  split
  · exact .cons hp .nil
  · exact .nil

theorem unknownFields_badInput (fields : List String) (what path : String) (m : Mapping) :
    BadInput (unknownFields fields what path m) := .map (fun _ => rfl) _

theorem nameProblems_badInput (v : Value) : BadInput (nameProblems v) := by
  unfold nameProblems
  split
  · exact .nil
  · exact .cons rfl .nil

/-! ## Blocks -/

theorem entry_badInput (position : Nat) (seen : List String) (m : Mapping) :
    BadInput (entry position seen m).2 := by
  have htype (path : String) : BadInput (entryType path m).2 := by
    unfold entryType
    split
    · exact .nil
    · exact .cons rfl .nil
  have hid (path : String) : BadInput (entryId position path m).2 := by
    unfold entryId
    split
    · exact .nil
    · exact .nil
    · exact .nil
    · exact .cons rfl .nil
  have hparams (path : String) : BadInput (entryParams path m).2 := by
    unfold entryParams
    split
    · exact .nil
    · exact .map (fun _ => rfl) _
    · exact .cons rfl .nil
  have henabled (path : String) : BadInput (entryEnabled path m).2 := by
    unfold entryEnabled
    split
    · exact .nil
    · exact .nil
    · exact .cons rfl .nil
  exact ((((unknownFields_badInput _ _ _ m).append (htype _)).append (hid _)).append
    (.ite rfl)).append (hparams _) |>.append (henabled _)

theorem entriesFrom_badInput (position : Nat) (seen : List String) (vs : List Value) :
    BadInput (entriesFrom position seen vs).2 := by
  induction vs generalizing position seen with
  | nil => exact .nil
  | cons v rest ih =>
    cases v with
    | mapping m => exact (entry_badInput position seen m).append (ih _ _)
    | _ => exact .cons rfl (ih _ _)

theorem bodyProblems_badInput (position : Nat) (es : List BlockEntry) :
    BadInput (bodyProblems position es) := by
  induction es generalizing position with
  | nil => exact .nil
  | cons e rest ih =>
    cases rest with
    | nil => exact .ite rfl
    | cons next rest => exact BadInput.append (.ite rfl) (ih (position + 1))

theorem blocks_badInput (v : Value) : BadInput (blocks v).2 := by
  unfold blocks
  split
  · exact .cons rfl .nil
  · split
    · exact (entriesFrom_badInput 0 [] _).append (bodyProblems_badInput 0 _)
    · exact .cons rfl .nil

theorem problemsWith_badInput {settings : List Problem} (hs : BadInput settings) (m : Mapping) :
    BadInput (problemsWith settings m) :=
  (((unknownFields_badInput _ _ _ m).append (nameProblems_badInput _)).append hs).append
    (blocks_badInput _)

/-! ## Whole files -/

/-- A file is turned away with its problems, as bad input. -/
def Reported (result : Except Fault Flow) : Prop :=
  ∃ ps, result = .error (.invalidFlow ps) ∧ ps ≠ [] ∧ BadInput ps ∧
    (CommandLine.Trouble.invalid ps).code = 2

/-- The settings of a file exceed what they can hold. -/
def HasExcess (v : Value) : Prop :=
  ∃ m settings, v = .mapping m ∧ Mapping.named? m "settings" = some settings ∧
    SettingsExceed settings

theorem settingsIn_cases (m : Mapping) :
    HasExcess (.mapping m) ∨ ∃ ps, settingsIn m = .ok ps ∧ BadInput ps := by
  unfold settingsIn
  cases hv : Mapping.named? m "settings" with
  | none => exact .inr ⟨[], rfl, .nil⟩
  | some v =>
    obtain hfit | hexceed | ⟨message, hp⟩ := settingsProblems_cases v
    · exact .inr ⟨[], hfit.problems, .nil⟩
    · exact .inl ⟨m, v, rfl, hv, hexceed⟩
    · exact .inr ⟨_, hp, .cons rfl .nil⟩

theorem HasExcess.load {v : Value} (hv : HasExcess v) (origin : Origin) :
    ∃ f, load origin v = .error f ∧ f.kind = .overflow := by
  obtain ⟨m, settings, rfl, hs, hexceed⟩ := hv
  obtain ⟨f, hf, hkind⟩ := hexceed.problems
  refine ⟨f, ?_, hkind⟩
  rw [load_mapping, settingsIn, hs]
  exact congrArg (Except.bind · _) hf

/-- A file that is not loaded is reported with its problems, unless a number in its settings exceeds
its setting: then the conversion's own fault comes out. -/
theorem load_rejects (origin : Origin) (v : Value) :
    (HasExcess v → ∃ f, load origin v = .error f ∧ f.kind = .overflow) ∧
      (¬ HasExcess v → (∃ f, load origin v = .ok f) ∨ Reported (load origin v)) := by
  refine ⟨fun hv => hv.load origin, fun hv => ?_⟩
  cases v with
  | mapping m =>
    obtain hexcess | ⟨settings, hs, hbad⟩ := settingsIn_cases m
    · exact absurd hexcess hv
    · by_cases hp : problemsWith settings m = []
      · obtain ⟨hfields, hname, rfl, ms, hblocks, hms⟩ := problemsWith_eq_nil.1 hp
        have hm : FlowFits m ms := ⟨hfields, hname, settingsIn_eq_nil.1 hs, hblocks, hms⟩
        exact .inl ⟨_, hm.load origin⟩
      · refine .inr ⟨problemsWith settings m, ?_, hp, problemsWith_badInput hbad m, rfl⟩
        rw [load_mapping, hs]
        exact if_pos hp
  | _ => exact .inr ⟨_, rfl, List.cons_ne_nil _ _, .cons rfl .nil, rfl⟩

/-- A flow whose settings ask for infinitely many retries. -/
def endlessRetries : Value :=
  .record [("name", .text "n"), ("settings", .record [("max_retries", .float (1.0 / 0.0))]),
    ("blocks", .list [.record [("type", .text "click"),
      ("params", .record [("selector", .text "#a")])]])]

theorem hasExcess_endlessRetries : HasExcess endlessRetries := by
  have hinfinite : Decimal.Reading.ofFloat (1.0 / 0.0) = .infinite false := by decide
  have hretries : Config.Exceeds (.text "max_retries", .float (1.0 / 0.0)) :=
    ⟨"max_retries", .integer, rfl, rfl, .infinite hinfinite⟩
  exact ⟨_, _, rfl, rfl, [], _, [], rfl, nofun, hretries⟩

theorem not_always_reported :
    ¬ ∀ origin v, (∃ f, load origin v = .ok f) ∨ Reported (load origin v) := by
  intro hall
  obtain ⟨f, hf, hkind⟩ := hasExcess_endlessRetries.load ⟨"", "", ""⟩
  obtain ⟨flow, hflow⟩ | ⟨ps, hps, -⟩ := hall ⟨"", "", ""⟩ endlessRetries
  · rw [hf] at hflow
    cases hflow
  · rw [hf] at hps
    cases hps
    cases hkind

end BrowserFlow.FlowFile
