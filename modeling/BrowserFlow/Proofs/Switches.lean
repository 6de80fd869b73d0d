import BrowserFlow.CommandLine.Arguments

/-!
The switch for dry runs among the arguments. Leaving it out, or putting it in front, changes nothing
else about what a list of arguments asks for.

* `withoutDryRun`: the arguments without the switch.
* `readRun_sift`: what is read of the arguments without the switch.
* `parse_rehearsing`: every run can be asked for as a dry run and as one that is not.
-/
namespace BrowserFlow.CommandLine
set_option autoImplicit false

/-! ## Leaving the switch out -/

/-- The options of a dry run, or of one that is not. -/
def RunOptions.rehearsing (o : RunOptions) (b : Bool) : RunOptions := { o with dryRun := b }

@[simp] theorem RunOptions.dryRun_rehearsing (o : RunOptions) (b : Bool) :
    (o.rehearsing b).dryRun = b := rfl

/-- The arguments without those that ask for a dry run; after a lone double dash nothing is an
option. -/
def withoutDryRun : List String → List String
  | [] => []
  | s :: rest =>
    if s = "--" then s :: rest
    else if classify? Switch.names s = some (.flag .dryRun) then withoutDryRun rest
    else s :: withoutDryRun rest

/-- The marks without those that ask for a dry run. -/
def sift (ms : List Mark) : List Mark := ms.filter (· ≠ .word (.flag .dryRun))

@[simp] theorem sift_nil : sift [] = [] := rfl

@[simp] theorem sift_dryRun (ms : List Mark) : sift (.word (.flag .dryRun) :: ms) = sift ms := by
  simp [sift]

@[simp] theorem sift_plain (s : String) (ms : List Mark) :
    sift (.word (.plain s) :: ms) = .word (.plain s) :: sift ms := rfl

@[simp] theorem sift_separator (ms : List Mark) : sift (.separator :: ms) = .separator :: sift ms :=
  rfl

@[simp] theorem sift_valued (s : Switch) (v : Option String) (ms : List Mark) :
    sift (.word (.valued s v) :: ms) = .word (.valued s v) :: sift ms := rfl

@[simp] theorem sift_unknown (ms : List Mark) :
    sift (.word .unknown :: ms) = .word .unknown :: sift ms := rfl

theorem sift_eq_self {ms : List Mark} (hms : .word (.flag .dryRun) ∉ ms) : sift ms = ms :=
  List.filter_eq_self.2 fun _ hm => decide_eq_true fun h => hms (h ▸ hm)

theorem sift_cons {m : Mark} (hm : m ≠ .word (.flag .dryRun)) (ms : List Mark) :
    sift (m :: ms) = m :: sift ms := by
  simp [sift, hm]

theorem marks?_cons {names : List (String × Switch)} {s : String} (hs : s ≠ "--")
    {rest : List String} {ms : List Mark} :
    marks? names (s :: rest) = some ms ↔
      ∃ w ms', classify? names s = some w ∧ marks? names rest = some ms' ∧ ms = .word w :: ms' := by
  rw [marks?, if_neg hs]
  cases classify? names s with
  | none => simp
  | some w =>
    cases marks? names rest with
    | none => simp
    | some ms' => simp [eq_comm]

theorem marks?_separator {names : List (String × Switch)} {rest : List String} :
    marks? names ("--" :: rest) = some (.separator :: rest.map fun t => .word (.plain t)) :=
  if_pos rfl

theorem marks?_withoutDryRun {args : List String} {ms : List Mark}
    (hms : marks? Switch.names args = some ms) :
    marks? Switch.names (withoutDryRun args) = some (sift ms) := by
  induction args generalizing ms with
  | nil =>
    cases hms
    rfl
  | cons s rest ih =>
    unfold withoutDryRun
    by_cases hs : s = "--"
    · subst hs
      rw [marks?_separator] at hms
      cases hms
      rw [if_pos rfl, marks?_separator, sift_separator, sift_eq_self]
      simp
    · obtain ⟨w, ms', hw, hrest, rfl⟩ := (marks?_cons hs).1 hms
      rw [if_neg hs, hw]
      by_cases hdry : w = .flag .dryRun
      · rw [if_pos (by rw [hdry]), hdry, sift_dryRun]
        exact ih hrest
      · rw [if_neg (by simpa using hdry), sift_cons (by simpa using hdry)]
        exact (marks?_cons hs).2 ⟨w, _, hw, ih hrest, rfl⟩

theorem withoutDryRun_eq_self {args : List String} {ms : List Mark}
    (hms : marks? Switch.names args = some ms) (hnone : .word (.flag .dryRun) ∉ ms) :
    withoutDryRun args = args := by
  induction args generalizing ms with
  | nil => rfl
  | cons s rest ih =>
    unfold withoutDryRun
    by_cases hs : s = "--"
    · rw [if_pos hs]
    · obtain ⟨w, ms', hw, hrest, rfl⟩ := (marks?_cons hs).1 hms
      rw [List.mem_cons, not_or] at hnone
      have hother : ¬ some w = some (.flag .dryRun) := fun h =>
        hnone.1 (congrArg Mark.word (Option.some.inj h).symm)
      rw [if_neg hs, hw, if_neg hother, ih hrest hnone.2]

/-! ## Reading what is left -/

/-- A reading whose options ask for a dry run, or do not. -/
def RunReading.rehearsing (r : RunReading) (b : Bool) : RunReading :=
  { r with options := r.options.rehearsing b }

theorem RunOptions.turnOn_rehearsing (o : RunOptions) {s : Switch} (hs : s ≠ .dryRun) (b : Bool) :
    (o.rehearsing b).turnOn s = (o.turnOn s).rehearsing b := by
  cases s <;> first | rfl | exact absurd rfl hs

theorem RunOptions.give?_rehearsing (o : RunOptions) (s : Switch) (v : String) (b : Bool) :
    (o.rehearsing b).give? s v = (o.give? s v).map (·.rehearsing b) := by
  cases s <;> simp [give?, rehearsing, Function.comp_def]

theorem finish_eq_run {r : RunReading} {flow : String} {o : RunOptions} :
    r.finish = .run flow o ↔ r.flow = some flow ∧ r.surplus = false ∧ r.options = o := by
  unfold RunReading.finish
  cases r.flow with
  | none => simp
  | some f => cases r.surplus <;> simp

theorem readRun_surplus {r : RunReading} (hflow : r.flow.isSome = true) (s : String)
    (rest : List Mark) :
    readRun r (.word (.plain s) :: rest) = readRun { r with surplus := true } rest := by
  rcases rest with _ | ⟨_ | _, more⟩ <;> simp only [readRun, if_pos hflow]

theorem readRun_sift {r : RunReading} {ms : List Mark} {flow : String} {o : RunOptions} (b : Bool)
    (hr : readRun r ms = .run flow o) :
    readRun (r.rehearsing b) (sift ms) = .run flow (o.rehearsing b) := by
  fun_induction readRun r ms with
  | case1 r =>
    obtain ⟨hflow, hsurplus, rfl⟩ := finish_eq_run.1 hr
    exact finish_eq_run.2 ⟨hflow, hsurplus, rfl⟩
  | case2 r s rest hflow ih =>
    have hkept : (r.rehearsing b).flow.isSome = true := hflow
    rw [sift_plain, readRun_surplus hkept]
    exact ih hr
  | case3 r s hflow more =>
    obtain ⟨hname, hsurplus, rfl⟩ := finish_eq_run.1 hr
    -- nothing may come after the double dash
    obtain ⟨hnone, hmore⟩ : r.surplus = false ∧ more = [] := by simpa using hsurplus
    subst hmore
    have hkept : ¬ (r.rehearsing b).flow.isSome = true := hflow
    rw [sift_plain, sift_separator, readRun, if_neg hkept]
    exact finish_eq_run.2 ⟨hname, by simp [RunReading.rehearsing, hnone], rfl⟩
  | case4 r s rest hflow hnext ih =>
    have hkept : ¬ (r.rehearsing b).flow.isSome = true := hflow
    have hread := ih hr
    rw [sift_plain, readRun, if_neg hkept]
    · exact hread
    · -- a double dash that comes next now is one too many
      intro more hmore
      rw [hmore] at hread
      cases hread
  | case5 r s more hflow =>
    obtain ⟨hname, hsurplus, rfl⟩ := finish_eq_run.1 hr
    obtain ⟨hnone, hmore⟩ : r.surplus = false ∧ more = [] := by simpa using hsurplus
    subst hmore
    rw [sift_separator, sift_plain, readRun]
    · exact finish_eq_run.2 ⟨hname, by simp [RunReading.rehearsing, hnone], rfl⟩
    · exact hflow
  | case8 r s rest hs ih =>
    by_cases hdry : s = .dryRun
    · subst hdry
      rw [sift_dryRun]
      exact ih hr
    · have hne : Mark.word (.flag s) ≠ .word (.flag .dryRun) := by simpa using hdry
      rw [sift_cons hne, readRun, if_neg hs]
      have hread := ih hr
      unfold RunReading.rehearsing at hread ⊢
      rwa [RunOptions.turnOn_rehearsing _ hdry]
  | case9 r s v rest o' ho ih =>
    have hgive : (r.rehearsing b).options.give? s v = some (o'.rehearsing b) := by
      rw [RunReading.rehearsing, RunOptions.give?_rehearsing, ho, Option.map_some]
    rw [sift_valued, readRun, hgive]
    exact ih hr
  | case11 r s v rest o' ho ih =>
    have hgive : (r.rehearsing b).options.give? s v = some (o'.rehearsing b) := by
      rw [RunReading.rehearsing, RunOptions.give?_rehearsing, ho, Option.map_some]
    rw [sift_valued, sift_plain, readRun, hgive]
    exact ih hr
  | case15 r rest ih =>
    rw [sift_unknown, readRun]
    exact ih hr
  | _ => cases hr

theorem RunOptions.dryRun_turnOn (o : RunOptions) (s : Switch) :
    (o.turnOn s).dryRun = (o.dryRun || s == .dryRun) := by
  cases s <;> simp [turnOn]

theorem RunOptions.dryRun_give? {o o' : RunOptions} {s : Switch} {v : String}
    (ho : o.give? s v = some o') : o'.dryRun = o.dryRun := by
  have hsame := o.give?_rehearsing s v o.dryRun
  have hself : o.rehearsing o.dryRun = o := rfl
  rw [hself, ho, Option.map_some] at hsame
  rw [Option.some.inj hsame]
  rfl

theorem readRun_asks {r : RunReading} {ms : List Mark} {flow : String} {o : RunOptions}
    (hr : readRun r ms = .run flow o)
    (hasks : r.options.dryRun = true ∨ .word (.flag .dryRun) ∈ ms) : o.dryRun = true := by
  fun_induction readRun r ms with
  | case1 r =>
    obtain ⟨-, -, rfl⟩ := finish_eq_run.1 hr
    simpa using hasks
  | case3 r s hflow more =>
    obtain ⟨-, hsurplus, rfl⟩ := finish_eq_run.1 hr
    obtain ⟨-, rfl⟩ : r.surplus = false ∧ more = [] := by simpa using hsurplus
    simpa using hasks
  | case5 r s more hflow =>
    obtain ⟨-, hsurplus, rfl⟩ := finish_eq_run.1 hr
    obtain ⟨-, rfl⟩ : r.surplus = false ∧ more = [] := by simpa using hsurplus
    simpa using hasks
  | case2 r s rest hflow ih => exact ih hr (by simpa using hasks)
  | case4 r s rest hflow hnext ih => exact ih hr (by simpa using hasks)
  | case8 r s rest hs ih =>
    refine ih hr ?_
    have hsame : Mark.word (.flag .dryRun) = .word (.flag s) ↔ s = .dryRun := by
      constructor
      · rintro ⟨⟩
        rfl
      · rintro rfl
        rfl
    rw [List.mem_cons, hsame] at hasks
    rw [RunOptions.dryRun_turnOn, Bool.or_eq_true, beq_iff_eq, or_assoc]
    exact hasks
  | case9 r s v rest o' ho ih =>
    refine ih hr ?_
    rw [RunOptions.dryRun_give? ho]
    simpa using hasks
  | case11 r s v rest o' ho ih =>
    refine ih hr ?_
    rw [RunOptions.dryRun_give? ho]
    simpa using hasks
  | case15 r rest ih => exact ih hr (by simpa using hasks)
  | _ => cases hr

/-! ## Commands -/

theorem classify?_plain {names : List (String × Switch)} {s t : String}
    (hs : classify? names s = some (.plain t)) : t = s := by
  have option (s : Switch) (v : Option String) : optionWord s v ≠ .plain t := by
    unfold optionWord
    split
    · nofun
    · split <;> nofun
  have unmatched (h : unmatched s = .plain t) : t = s := by
    unfold CommandLine.unmatched at h
    split at h
    · cases h
      rfl
    · cases h
  unfold classify? at hs
  dsimp only at hs
  split at hs
  · split at hs
    · exact absurd (Option.some.inj hs) (option _ _)
    · split at hs
      · exact absurd (Option.some.inj hs) (option _ _)
      · split at hs
        · split at hs
          · exact unmatched (Option.some.inj hs)
          · exact absurd (Option.some.inj hs) (option _ _)
          · cases hs
        · split at hs
          · have hletters := Option.some.inj hs
            split at hletters <;> cases hletters
          · exact unmatched (Option.some.inj hs)
  · cases hs
    rfl

theorem withSurplus_eq_run {surplus : Bool} {i : Invocation} {flow : String} {o : RunOptions} :
    withSurplus surplus i = .run flow o ↔ surplus = false ∧ i = .run flow o := by
  cases i <;> cases surplus <;> simp [withSurplus]

theorem parseRun_of_parseFrom {surplus : Bool} {args : List String} {flow : String} {o : RunOptions}
    (hargs : parseFrom surplus args = .run flow o) :
    surplus = false ∧ ∃ rest, args = "run" :: rest ∧ parseRun rest = .run flow o := by
  induction args generalizing surplus with
  | nil => cases surplus <;> cases hargs
  | cons s rest ih =>
    unfold parseFrom at hargs
    split at hargs
    · cases hargs
    · split at hargs
      · rename_i name hname
        split at hargs
        · rename_i hrun
          have hs : name = s := classify?_plain hname
          obtain ⟨hsurplus, hrest⟩ := withSurplus_eq_run.1 hargs
          rw [← hs, hrun]
          exact ⟨hsurplus, rest, rfl, hrest⟩
        · cases hargs
      · cases hargs
      · cases (ih hargs).1
      · cases hargs

theorem parse_run {rest : List String} {flow : String} {o : RunOptions}
    (hrest : parseRun rest = .run flow o) : parse ("run" :: rest) = .run flow o :=
  withSurplus_eq_run.2 ⟨rfl, hrest⟩

theorem parseRun_eq_run {args : List String} {flow : String} {o : RunOptions} :
    parseRun args = .run flow o ↔
      ∃ ms, marks? Switch.names args = some ms ∧ readRun {} ms = .run flow o := by
  unfold parseRun
  cases marks? Switch.names args <;> simp

/-- A command can be given as a dry run and as one that is not, whichever it was. -/
theorem parse_rehearsing {args : List String} {flow : String} {o : RunOptions}
    (hargs : parse args = .run flow o) :
    ∃ rest, args = "run" :: rest ∧
      parse ("run" :: "--dry-run" :: withoutDryRun rest) = .run flow (o.rehearsing true) ∧
      parse ("run" :: withoutDryRun rest) = .run flow (o.rehearsing false) ∧
      (o.dryRun = false → withoutDryRun rest = rest) := by
  obtain ⟨-, rest, rfl, hrest⟩ := parseRun_of_parseFrom hargs
  obtain ⟨ms, hms, hread⟩ := parseRun_eq_run.1 hrest
  have hsifted := marks?_withoutDryRun hms
  have hdry : marks? Switch.names ("--dry-run" :: withoutDryRun rest) =
      some (.word (.flag .dryRun) :: sift ms) := by
    have hswitch : classify? Switch.names "--dry-run" = some (.flag .dryRun) := rfl
    rw [marks?, if_neg (by decide), hswitch, hsifted]
  refine ⟨rest, rfl, parse_run (parseRun_eq_run.2 ⟨_, hdry, ?_⟩),
    parse_run (parseRun_eq_run.2 ⟨_, hsifted, readRun_sift false hread⟩), fun hreal => ?_⟩
  · -- the switch comes first, so the reading goes on as one of a dry run
    exact readRun_sift true hread
  · refine withoutDryRun_eq_self hms fun hasks => ?_
    rw [readRun_asks hread (.inr hasks)] at hreal
    cases hreal

end BrowserFlow.CommandLine
