import BrowserFlow.Browser.Simulated
import BrowserFlow.Proofs.Precedence
import BrowserFlow.Proofs.Switches
import Mathlib.Data.List.TakeWhile

/-!
Dry runs foretell runs. Both make the same preparations, and a trouble there ends both with the same
exit code, before there is a browser; what the dry run cannot know is how the run itself ends.

* `prepare`: what comes of the preparations.
* `Concludes`: how a run ends that has a browser.
* `dryRun_foretells`: the dry run beside the run.
* `not_always_missing`: what is no path at all is no missing file either.
-/
namespace BrowserFlow.CommandLine
set_option autoImplicit false

/-! ## Initial variables -/

theorem splitEquals_isSome {s : String} : (splitEquals s).2.isSome ↔ '=' ∈ s.toList := by
  have hnil := List.dropWhile_eq_nil_iff (p := (decide <| · ≠ '=')) (l := s.toList)
  unfold splitEquals
  dsimp only
  split
  · rename_i c value hrest
    rw [hrest] at hnil
    simpa using hnil
  · rename_i hrest
    rw [hrest] at hnil
    simpa using fun h => hnil.1 rfl '=' h

theorem foldlM_readVariable (items : List String) (s : Store) :
    ((∀ item ∈ items, '=' ∈ item.toList) ∧ ∃ s', items.foldlM readVariable s = .ok s') ∨
      ∃ item ∈ items, '=' ∉ item.toList ∧
        items.foldlM readVariable s = .error (.badVariable item) := by
  induction items generalizing s with
  | nil => exact .inl ⟨nofun, s, rfl⟩
  | cons item rest ih =>
    rw [List.foldlM_cons]
    cases hsplit : splitEquals item with
    | mk name value? =>
      cases value? with
      | none =>
        have hplain : '=' ∉ item.toList := by
          rw [← splitEquals_isSome, hsplit]
          nofun
        refine .inr ⟨item, List.mem_cons_self, hplain, ?_⟩
        rw [readVariable, hsplit]
        rfl
      | some value =>
        have hvalue : '=' ∈ item.toList := by
          rw [← splitEquals_isSome, hsplit]
          rfl
        have hstep : readVariable s item = .ok (s.set (Text.trim name) (.text value)) := by
          rw [readVariable, hsplit]
        rw [hstep]
        obtain ⟨hrest, s', hs'⟩ | ⟨bad, hmem, hplain, hbad⟩ :=
          ih (s.set (Text.trim name) (.text value))
        · exact .inl ⟨List.forall_mem_cons.2 ⟨hvalue, hrest⟩, s', hs'⟩
        · exact .inr ⟨bad, List.mem_cons_of_mem _ hmem, hplain, hbad⟩

/-! ## Preparations -/

variable {W T : Type}

/-- What there is under a path as it is given; a text with the character zero is no path. -/
def lookup? (place : Place W T) (flow : String) : Option Found :=
  if flow.toList.contains '\x00' then none else some (place.find (resolve place.directory flow))

def Exists (place : Place W T) (flow : String) : Prop :=
  ∃ found, lookup? place flow = some found ∧ found ≠ .nothing

/-- What comes of all preparations, the search for the file among them. -/
def prepare (place : Place W T) (flow : String) (o : RunOptions) : Except Trouble Plan :=
  match lookup? place flow with
  | none => .error (.fault .impossiblePath)
  | some .nothing => .error (.noSuchFile (pathText (resolve place.directory flow)))
  | some _ => plan place o (resolve place.directory flow)

/-- The file is there and holds a flow, and its settings and all initial variables make sense. -/
structure Prepared (place : Place W T) (flow : String) (o : RunOptions) (f : Flow) : Prop where
  found : Exists place flow
  loads : loadFlow place (resolve place.directory flow) = .ok f
  settings : ∀ e ∈ f.settings, Config.Allows e
  bindings : ∀ item ∈ o.bindings, '=' ∈ item.toList

theorem load_of_loadFlow {place : Place W T} {path : List String} {f : Flow}
    (hf : loadFlow place path = .ok f) : ∃ v, FlowFile.load place.origin v = .ok f := by
  unfold loadFlow at hf
  dsimp only at hf
  split at hf
  · rename_i flow hread
    cases hf
    unfold FlowFile.read at hread
    split at hread
    · cases hread
    · rename_i bytes hbytes
      cases hparse : FlowFile.parse (path.getLast?.getD "") bytes with
      | error f =>
        rw [hparse] at hread
        cases hread
      | ok v =>
        rw [hparse] at hread
        exact ⟨v, hread⟩
  · cases hf
  · cases hf

theorem plan_eq {place : Place W T} {path : List String} {o : RunOptions} {f : Flow} {c : Config}
    (hf : loadFlow place path = .ok f) (hc : buildConfig o f = .ok c) :
    plan place o path = ((readVariables o.bindings).mapError Trouble.fault).map (Plan.mk f c) := by
  unfold plan
  rw [hf]
  show Except.bind ((buildConfig o f).mapError Trouble.fault) _ = _
  rw [hc]
  cases readVariables o.bindings <;> rfl

theorem plan_of_load {place : Place W T} {path : List String} {f : Flow}
    (hf : loadFlow place path = .ok f) (o : RunOptions) :
    ((∀ item ∈ o.bindings, '=' ∈ item.toList) ∧ ∃ p, plan place o path = .ok p) ∨
      ∃ item ∈ o.bindings, '=' ∉ item.toList ∧
        plan place o path = .error (.fault (.badVariable item)) := by
  obtain ⟨v, hv⟩ := load_of_loadFlow hf
  obtain ⟨-, c, -, hc, -⟩ := buildConfig_of_load hv o
  rw [plan_eq hf hc]
  obtain ⟨hall, store, hstore⟩ | ⟨item, hmem, hplain, hbad⟩ := foldlM_readVariable o.bindings []
  · rw [readVariables, hstore]
    exact .inl ⟨hall, _, rfl⟩
  · rw [readVariables, hbad]
    exact .inr ⟨item, hmem, hplain, rfl⟩

theorem plan_of_error {place : Place W T} {path : List String} {t : Trouble}
    (ht : loadFlow place path = .error t) (o : RunOptions) : plan place o path = .error t := by
  unfold plan
  rw [ht]
  rfl

theorem prepare_of_exists {place : Place W T} {flow : String} (hfound : Exists place flow)
    (o : RunOptions) : prepare place flow o = plan place o (resolve place.directory flow) := by
  obtain ⟨found, hlookup, hne⟩ := hfound
  unfold prepare
  rw [hlookup]
  cases found with
  | nothing => exact absurd rfl hne
  | _ => rfl

/-- The preparations succeed when there is nothing wrong, and not otherwise. -/
theorem prepare_eq_ok {place : Place W T} {flow : String} {o : RunOptions} :
    (∃ p, prepare place flow o = .ok p) ↔ ∃ f, Prepared place flow o f := by
  constructor
  · rintro ⟨p, hp⟩
    have hfound : Exists place flow := by
      unfold prepare at hp
      split at hp
      · cases hp
      · cases hp
      · rename_i found hne hlookup
        exact ⟨found, hlookup, hne⟩
    rw [prepare_of_exists hfound] at hp
    cases hload : loadFlow place (resolve place.directory flow) with
    | error t =>
      rw [plan_of_error hload] at hp
      cases hp
    | ok f =>
      obtain ⟨v, hv⟩ := load_of_loadFlow hload
      obtain ⟨hall, -⟩ | ⟨item, -, -, hbad⟩ := plan_of_load hload o
      · exact ⟨f, hfound, hload, FlowFile.allows_of_load hv, hall⟩
      · rw [hbad] at hp
        cases hp
  · rintro ⟨f, hf⟩
    rw [prepare_of_exists hf.found]
    obtain ⟨-, hplan⟩ | ⟨item, hmem, hplain, -⟩ := plan_of_load hf.loads o
    · exact hplan
    · exact absurd (hf.bindings item hmem) hplain

/-! ## Runs -/

theorem Trouble.code_ne_zero (t : Trouble) : t.code ≠ 0 := by
  cases t with
  | fault f =>
    by_cases hvalue : f.isA .value = true <;> simp [code, hvalue]
  | _ => simp [code]

variable [Clock T]

/-- In a browser as it was started, the tab that was asked for loads, if one was, and the run of the
plan ends with this status. -/
def Plan.Concludes (p : Plan) (place : Place W T) (o : RunOptions) (world : W)
    (status : RunStatus) : Prop :=
  ∃ (tab : TabRef) (s : Scene W T),
    openTab o.url p.config.loadTimeoutSec place.host [] ⟨world, Clock.zero, {}⟩ () =
      (.done tab, s, ()) ∧
    (Engine.run { engagement := { config := p.config, retry := RetryPolicy.ofConfig p.config } }
      place.host p.flow tab (if o.quiet then none else some fun _ => {}) p.store s.world
      s.now).status = some status

/-- The preparations succeed, a browser starts, and this is the terminal status of the run. -/
def Concludes (place : Place W T) (flow : String) (o : RunOptions) (status : RunStatus) : Prop :=
  ∃ p start, prepare place flow o = .ok p ∧ place.browser = .ok start ∧
    p.Concludes place o (start o.headless) status

theorem exitCode_eq_zero {status : Option RunStatus} :
    exitCode status = 0 ↔ ∃ s, status = some s ∧ s.state = .completed := by
  cases status with
  | none => simp [exitCode]
  | some s => simp [exitCode]

theorem execute_code {place : Place W T} {o : RunOptions} {p : Plan} {before : List LogLine}
    {world : W} :
    (execute place o p before world).code = 0 ↔
      ∃ status, p.Concludes place o world status ∧ status.state = .completed := by
  unfold execute Plan.Concludes
  rcases hopen : openTab o.url p.config.loadTimeoutSec place.host [] ⟨world, Clock.zero, {}⟩ ()
    with ⟨tab | f | k | _, s, ⟨⟩⟩
  · dsimp only
    rw [Engine.submit_of_idle rfl]
    dsimp only
    rw [exitCode_eq_zero]
    constructor
    · rintro ⟨status, hstatus, hstate⟩
      exact ⟨status, ⟨tab, s, rfl, hstatus⟩, hstate⟩
    · rintro ⟨status, ⟨tab', s', heq, hstatus⟩, hstate⟩
      cases heq
      exact ⟨status, hstatus, hstate⟩
  · refine iff_of_false (Trouble.code_ne_zero (.fault f)) ?_
    rintro ⟨status, ⟨tab, s', heq, -⟩, -⟩
    cases heq
  · refine iff_of_false Nat.one_ne_zero ?_
    rintro ⟨status, ⟨tab, s', heq, -⟩, -⟩
    cases heq
  · refine iff_of_false Nat.one_ne_zero ?_
    rintro ⟨status, ⟨tab, s', heq, -⟩, -⟩
    cases heq

/-! ## The dry run beside the run -/

section Beside
variable {place : Place W T} {flow : String} {o : RunOptions}

theorem runFile_of_trouble {t : Trouble} (ht : prepare place flow o = .error t) :
    ∃ before, runFile place flow o = t.report before none := by
  unfold prepare lookup? at ht
  unfold runFile
  dsimp only
  by_cases hzero : flow.toList.contains '\x00' = true
  · rw [if_pos hzero] at ht ⊢
    cases ht
    exact ⟨_, rfl⟩
  · rw [if_neg hzero] at ht ⊢
    cases hfind : place.find (resolve place.directory flow) with
    | nothing =>
      rw [hfind] at ht
      cases ht
      exact ⟨_, rfl⟩
    | _ =>
      rw [hfind] at ht
      dsimp only at ht ⊢
      rw [ht]
      exact ⟨_, rfl⟩

theorem runFile_of_plan {p : Plan} (hp : prepare place flow o = .ok p) :
    ∃ before log, runFile place flow o =
      if o.dryRun then { code := 0, log }
      else
        match place.browser with
        | .error reason => (Trouble.noBrowser reason).report before none
        | .ok start => execute place o p before (start o.headless) := by
  unfold prepare lookup? at hp
  unfold runFile
  dsimp only
  by_cases hzero : flow.toList.contains '\x00' = true
  · rw [if_pos hzero] at hp
    cases hp
  · rw [if_neg hzero] at hp ⊢
    cases hfind : place.find (resolve place.directory flow) with
    | nothing =>
      rw [hfind] at hp
      cases hp
    | _ =>
      rw [hfind] at hp
      dsimp only at hp ⊢
      rw [hp]
      exact ⟨_, _, rfl⟩

theorem run_of_trouble {t : Trouble} (ht : prepare place flow o = .error t) :
    (run place flow o).code = t.code ∧ (run place flow o).opened = none := by
  obtain ⟨before, hrun⟩ := runFile_of_trouble ht
  rw [run, hrun]
  exact ⟨rfl, rfl⟩

theorem run_dry {p : Plan} (hp : prepare place flow o = .ok p) :
    (run place flow (o.rehearsing true)).code = 0 ∧
      (run place flow (o.rehearsing true)).opened = none := by
  have hprepare : prepare place flow (o.rehearsing true) = .ok p := hp
  obtain ⟨before, log, hrun⟩ := runFile_of_plan hprepare
  rw [run, hrun, o.dryRun_rehearsing, if_pos rfl]
  exact ⟨rfl, rfl⟩

theorem run_real {p : Plan} (hp : prepare place flow o = .ok p) :
    (run place flow (o.rehearsing false)).code = 0 ↔
      ∃ status, Concludes place flow o status ∧ status.state = .completed := by
  have hprepare : prepare place flow (o.rehearsing false) = .ok p := hp
  obtain ⟨before, log, hrun⟩ := runFile_of_plan hprepare
  rw [run, hrun, o.dryRun_rehearsing, if_neg Bool.false_ne_true]
  cases hbrowser : place.browser with
  | error reason =>
    refine iff_of_false Nat.one_ne_zero ?_
    rintro ⟨status, ⟨p', start, -, hstart, -⟩, -⟩
    rw [hbrowser] at hstart
    cases hstart
  | ok start =>
    refine execute_code.trans ?_
    constructor
    · rintro ⟨status, hstatus, hstate⟩
      exact ⟨status, ⟨p, start, hp, hbrowser, hstatus⟩, hstate⟩
    · rintro ⟨status, ⟨p', start', hp', hstart, hstatus⟩, hstate⟩
      rw [hp] at hp'
      rw [hbrowser] at hstart
      cases hp'
      cases hstart
      exact ⟨status, hstatus, hstate⟩

/-- What a dry run says about the run. -/
structure Foretells (place : Place W T) (flow : String) (o : RunOptions) (dry real : Report W) :
    Prop where
  unopened : dry.opened = none
  trouble : dry.code ≠ 0 → real.code = dry.code ∧ real.opened = none
  prepared : dry.code = 0 ↔ ∃ f, Prepared place flow o f
  completes : dry.code = 0 →
    (real.code = 0 ↔ ∃ status, Concludes place flow o status ∧ status.state = .completed)
  missing : lookup? place flow = some .nothing → dry.code = 1 ∧ real.code = 1
  impossible : lookup? place flow = none → dry.code = 2 ∧ real.code = 2
  rejected : Exists place flow → ∀ problems,
    loadFlow place (resolve place.directory flow) = .error (.invalid problems) →
      dry.code = 2 ∧ real.code = 2
  misnamed : Exists place flow → ∀ f, loadFlow place (resolve place.directory flow) = .ok f →
    (∃ item ∈ o.bindings, '=' ∉ item.toList) → dry.code = 2 ∧ real.code = 2

theorem codes_of_trouble {t : Trouble} {n : Nat} (ht : prepare place flow o = .error t)
    (hn : t.code = n) :
    (run place flow (o.rehearsing true)).code = n ∧
      (run place flow (o.rehearsing false)).code = n := by
  have hprepare (b : Bool) : prepare place flow (o.rehearsing b) = .error t := ht
  rw [← hn]
  exact ⟨(run_of_trouble (hprepare true)).1, (run_of_trouble (hprepare false)).1⟩

theorem run_foretells (place : Place W T) (flow : String) (o : RunOptions) :
    Foretells place flow o (run place flow (o.rehearsing true))
      (run place flow (o.rehearsing false)) := by
  -- all that follows is known from how the preparations end, which is the same for both
  have either : (∃ t, prepare place flow o = .error t) ∨ ∃ p, prepare place flow o = .ok p := by
    cases prepare place flow o with
    | error t => exact .inl ⟨t, rfl⟩
    | ok p => exact .inr ⟨p, rfl⟩
  constructor
  case unopened =>
    obtain ⟨t, ht⟩ | ⟨p, hp⟩ := either
    · exact (run_of_trouble (o := o.rehearsing true) ht).2
    · exact (run_dry hp).2
  case trouble =>
    intro hcode
    obtain ⟨t, ht⟩ | ⟨p, hp⟩ := either
    · obtain ⟨hdry, hreal⟩ := codes_of_trouble ht rfl
      exact ⟨hreal.trans hdry.symm, (run_of_trouble (o := o.rehearsing false) ht).2⟩
    · exact absurd (run_dry hp).1 hcode
  case prepared =>
    rw [← prepare_eq_ok]
    obtain ⟨t, ht⟩ | ⟨p, hp⟩ := either
    · refine iff_of_false ?_ ?_
      · rw [(codes_of_trouble ht rfl).1]
        exact t.code_ne_zero
      · rintro ⟨p, hp⟩
        rw [ht] at hp
        cases hp
    · exact iff_of_true (run_dry hp).1 ⟨p, hp⟩
  case completes =>
    intro hcode
    obtain ⟨t, ht⟩ | ⟨p, hp⟩ := either
    · rw [(codes_of_trouble ht rfl).1] at hcode
      exact absurd hcode t.code_ne_zero
    · exact run_real hp
  case missing =>
    intro hlookup
    have ht : prepare place flow o =
        .error (.noSuchFile (pathText (resolve place.directory flow))) := by
      rw [prepare, hlookup]
    exact codes_of_trouble ht rfl
  case impossible =>
    intro hlookup
    have ht : prepare place flow o = .error (.fault .impossiblePath) := by
      rw [prepare, hlookup]
    exact codes_of_trouble ht rfl
  case rejected =>
    intro hfound problems hload
    have ht : prepare place flow o = .error (.invalid problems) := by
      rw [prepare_of_exists hfound, plan_of_error hload]
    exact codes_of_trouble ht rfl
  case misnamed =>
    intro hfound f hload ⟨bad, hbad, hplain⟩
    obtain ⟨hall, -⟩ | ⟨item, -, -, hplan⟩ := plan_of_load hload o
    · exact absurd (hall bad hbad) hplain
    · have ht : prepare place flow o = .error (.fault (.badVariable item)) := by
        rw [prepare_of_exists hfound, hplan]
      exact codes_of_trouble ht rfl

end Beside

theorem dryRun_foretells (place : Place W T) {args : List String} {flow : String} {o : RunOptions}
    (hargs : parse args = .run flow o) :
    ∃ rest, args = "run" :: rest ∧
      parse ("run" :: "--dry-run" :: withoutDryRun rest) = .run flow (o.rehearsing true) ∧
      parse ("run" :: withoutDryRun rest) = .run flow (o.rehearsing false) ∧
      (o.dryRun = false → withoutDryRun rest = rest) ∧
      Foretells place flow o (run place flow (o.rehearsing true))
        (run place flow (o.rehearsing false)) := by
  obtain ⟨rest, hrest, hdry, hreal, hsame⟩ := parse_rehearsing hargs
  exact ⟨rest, hrest, hdry, hreal, hsame, run_foretells place flow o⟩

/-- A room with a browser, in which there is the same under every path. -/
def roomWith (found : Found) : Place SimBrowser Float :=
  { directory := []
    find := fun _ => found
    browser := .ok fun _ => {}
    host := SimBrowser.host
    origin := ⟨"f", "b", ""⟩ }

theorem dryRun_foretells_unreadable :
    (run (roomWith (.file [0xff])) "f.json" { dryRun := true, bindings := ["x"] }).code = 2 ∧
      (run (roomWith (.file [0xff])) "f.json" { bindings := ["x"] }).code = 2 := by
  have hargs : parse ["run", "f.json", "--var", "x", "--dry-run"] =
      .run "f.json" { dryRun := true, bindings := ["x"] } := rfl
  obtain ⟨rest, -, -, -, -, hforetells⟩ := dryRun_foretells (roomWith (.file [0xff])) hargs
  have hfound : Exists (roomWith (.file [0xff])) "f.json" := ⟨_, rfl, nofun⟩
  exact hforetells.rejected hfound _ rfl

/-- Where there is no file at all, the run of a text that is no path still ends with 2. -/
theorem not_always_missing :
    ¬ ∀ (place : Place SimBrowser Float) (args : List String) (flow : String) (o : RunOptions),
      parse args = .run flow o → (∀ path, place.find path = .nothing) →
        (run place flow o).code = 1 := by
  intro hall
  have hargs : parse ["run", "a\x00b"] = .run "a\x00b" {} := rfl
  have hone := hall (roomWith .nothing) _ _ _ hargs fun _ => rfl
  have htwo : (run (roomWith .nothing) "a\x00b" {}).code = 2 := rfl
  rw [htwo] at hone
  cases hone

end BrowserFlow.CommandLine
