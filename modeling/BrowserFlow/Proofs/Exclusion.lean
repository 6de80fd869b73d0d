import BrowserFlow.Proofs.Simulation
import BrowserFlow.Proofs.Stopping

/-!
One run at a time. Requests reach an engine whenever the run under way pauses, as many as the host
hands over and in its order, so what holds over every host holds for every way in which requests
and the steps of a run interleave.

* `Engine.HeldBy`: at this moment the engine is busy with one flow, and refuses every other run.
* `Host.withoutRuns`, `Host.recorded`: the host when nobody asks for another run, and the host that
  also writes down what was asked for.
* `Engine.Excludes`: how a run deals with the runs that are asked for meanwhile.
* `Engine.serve`, `Engine.answers`: the runs of a session, and what the engine answers to each that
  it is asked for.
* `Engine.serve_excludes`: so it goes for every run of a session, and between its runs the engine
  is idle.
-/
namespace BrowserFlow
set_option autoImplicit false

variable {W W' T α : Type}

/-! ## Requests to a busy engine -/

def Request.isRun : Request → Bool
  | .run _ => true
  | .stop => false

namespace Control

variable {c : Control} {name : String}

theorem receive_run (ha : c.active = some name) (other : String) :
    c.receive (.run other) =
      { c with refusals := c.refusals ++ [.alreadyRunning (some name)] } := by
  simp only [receive, ha]

theorem receive_stop (ha : c.active = some name) :
    c.receive .stop = { c with stopped := true } := by
  simp [receive, ha]

theorem receiveAll_refusals (ha : c.active = some name) (rs : List Request) :
    (c.receiveAll rs).refusals =
      c.refusals ++ (rs.filter Request.isRun).map fun _ => .alreadyRunning (some name) := by
  induction rs generalizing c with
  | nil => simp [receiveAll]
  | cons r rs ih =>
    have hactive : (c.receive r).active = some name := by rw [receive_active, ha]
    have htail : (c.receiveAll (r :: rs)).refusals = (c.receive r).refusals ++ _ := ih hactive
    rw [htail]
    cases r with
    | stop =>
      rw [receive_stop ha]
      rfl
    | run other =>
      rw [receive_run ha, List.append_assoc]
      rfl

/-- What is known of requests but for the refusals. -/
def unrefused (c : Control) : Control := { c with refusals := [] }

theorem unrefused_receive_run (c : Control) (other : String) :
    (c.receive (.run other)).unrefused = c.unrefused := by
  obtain ⟨_ | name, stopped, refusals⟩ := c <;> rfl

theorem unrefused_receive_stop (c : Control) :
    (c.receive .stop).unrefused = c.unrefused.receive .stop := by
  obtain ⟨_ | name, stopped, refusals⟩ := c <;> rfl

theorem unrefused_receiveAll (c : Control) (rs : List Request) :
    (c.receiveAll rs).unrefused = c.unrefused.receiveAll (rs.filter fun r => !r.isRun) := by
  induction rs generalizing c with
  | nil => rfl
  | cons r rs ih =>
    have htail : (c.receiveAll (r :: rs)).unrefused = (c.receive r).unrefused.receiveAll _ :=
      ih (c.receive r)
    rw [htail]
    cases r with
    | stop =>
      rw [unrefused_receive_stop]
      rfl
    | run other =>
      rw [unrefused_receive_run]
      rfl

end Control

/-! ## The engine at a moment of a run -/

def Scene.receiving (s : Scene W T) (r : Request) : Scene W T :=
  { s with control := s.control.receive r }

namespace Engine

/-- The engine as it stands at a moment of a run. -/
def during (e : Engine) (s : Scene W T) (p : Progress T) : Engine :=
  -- the last report is still that of the run before
  { e with
    active := s.control.active.map fun name => ⟨name, p.position, s.control.stopped⟩
    store := p.store }

/-- The engine is busy with a flow. It refuses another run, and is as it was before. -/
structure HeldBy [Clock T] (e : Engine) (name : String) (s : Scene W T) (p : Progress T) :
    Prop where
  active : (e.during s p).active = some ⟨name, p.position, s.control.stopped⟩
  unmoved : ∀ other, e.during (s.receiving (.run other)) p = e.during s p
  refuses : ∀ other, (s.receiving (.run other)).control.refusals =
    s.control.refusals ++ [.alreadyRunning (some name)]
  /-- So does the engine itself, whatever is submitted to it. -/
  barred : ∀ (host : Host W T) flow tab sink initial world now,
    (e.during s p).submit host flow tab sink initial world now =
      .error (.alreadyRunning (some name))
  stops : e.during (s.receiving .stop) p = (e.during s p).stop

theorem during_active {e : Engine} {name : String} {s : Scene W T} {p : Progress T}
    (ha : s.control.active = some name) :
    (e.during s p).active = some ⟨name, p.position, s.control.stopped⟩ := by
  simp only [during, ha, Option.map_some]

theorem heldBy_of_active [Clock T] {e : Engine} {name : String} {s : Scene W T} {p : Progress T}
    (ha : s.control.active = some name) : e.HeldBy name s p where
  active := during_active ha
  unmoved other := by
    simp only [during, Scene.receiving, Control.receive_run ha]
  refuses other := by
    simp only [Scene.receiving, Control.receive_run ha]
  barred host flow tab sink initial world now := submit_of_active (during_active ha) ..
  stops := by
    simp only [during, Scene.receiving, Control.receive_stop ha, ha, stop, Option.map_some]

end Engine

/-! ## Hosts that differ in their requests -/

namespace Host

/-- The host with all its calls changed in one way, and its pauses. -/
def rewire (h : Host W T) (call : {α : Type} → Call W T α → Call W' T α)
    (arrivals : T → W' → W' × List Request) : Host W' T where
  create url front := call (h.create url front)
  update tab change := call (h.update tab change)
  get tab := call (h.get tab)
  reload tab := call (h.reload tab)
  remove tabs := call (h.remove tabs)
  query window active := call (h.query window active)
  capture tab := call (h.capture tab)
  awaitLoad tab := call (h.awaitLoad tab)
  perform tab action params := call (h.perform tab action params)
  arrivals := arrivals

theorem ask_rewire (h : Host W T) (call : {α : Type} → Call W T α → Call W' T α)
    (arrivals : T → W' → W' × List Request) (q : Question α) :
    q.ask (h.rewire call arrivals) = call (q.ask h) := by
  cases q <;> rfl

end Host

def Reply.withoutRuns : Reply W T α → Reply W T α
  | .done w rs result => .done w (rs.filter fun r => !r.isRun) result
  | .sleep w rs d k => .sleep w (rs.filter fun r => !r.isRun) d fun t => (k t).withoutRuns

def Host.withoutRuns (h : Host W T) : Host W T :=
  h.rewire (fun call t w => (call t w).withoutRuns)
    fun t w => ((h.arrivals t w).1, (h.arrivals t w).2.filter fun r => !r.isRun)

def Reply.recorded : Reply W T α → List Request → Reply (W × List Request) T α
  | .done w rs result, log => .done (w, log ++ rs) rs result
  | .sleep w rs d k, log => .sleep (w, log ++ rs) rs d fun t => (k t).recorded (log ++ rs)

def Host.recorded (h : Host W T) : Host (W × List Request) T :=
  h.rewire (fun call t w => (call t w.1).recorded w.2)
    fun t w => (((h.arrivals t w.1).1, w.2 ++ (h.arrivals t w.1).2), (h.arrivals t w.1).2)

/-- The worlds are the same, and the controls but for the refusals. -/
def Link.unrefused : Link W W := fun w c w' c' => w' = w ∧ c' = c.unrefused

/-- A flow is under way, and there is a refusal for each run in the record. -/
def Link.recorded (name : String) : Link W (W × List Request) := fun w c w' c' =>
  w'.1 = w ∧ c' = c ∧ c.active = some name ∧
    c.refusals = (w'.2.filter Request.isRun).map fun _ => .alreadyRunning (some name)

theorem Link.recorded.receiveAll {name : String} {w w₁ : W} {c c' : Control} {log : List Request}
    (hl : Link.recorded name w c (w, log) c') (rs : List Request) :
    Link.recorded name w₁ (c.receiveAll rs) (w₁, log ++ rs) (c'.receiveAll rs) := by
  obtain ⟨-, rfl, ha, hr⟩ := hl
  have hactive : (c'.receiveAll rs).active = some name := by rw [Control.receiveAll_active, ha]
  have hrefusals := Control.receiveAll_refusals ha rs
  rw [hr] at hrefusals
  refine ⟨rfl, rfl, hactive, ?_⟩
  rw [hrefusals, List.filter_append, List.map_append]

namespace Reply

theorem related_withoutRuns (r : Reply W T α) (c : Control) :
    Related Link.unrefused c r c.unrefused r.withoutRuns := by
  -- over all controls, since each sleep starts from what the requests before it left
  induction r generalizing c with
  | done w rs result => exact .done ⟨rfl, (c.unrefused_receiveAll rs).symm⟩
  | sleep w rs d k ih =>
    have hc := c.unrefused_receiveAll rs
    refine .sleep ⟨rfl, hc.symm⟩ fun t => ?_
    rw [← hc]
    exact ih t (c.receiveAll rs)

theorem related_recorded {name : String} {w : W} {c c' : Control} {log : List Request}
    (r : Reply W T α) (hl : Link.recorded name w c (w, log) c') :
    Related (Link.recorded name) c r c' (r.recorded log) := by
  induction r generalizing w c c' log with
  | done w₁ rs result => exact .done (hl.receiveAll rs)
  | sleep w₁ rs d k ih =>
    have hnext : Link.recorded name w₁ (c.receiveAll rs) (w₁, log ++ rs) (c'.receiveAll rs) :=
      hl.receiveAll rs
    exact .sleep hnext fun t => ih t hnext

end Reply

namespace Host

theorem withoutRuns_simulation (h : Host W T) : h.Simulation h.withoutRuns Link.unrefused where
  asked q t := by
    rintro _ c w _ ⟨rfl, rfl⟩
    rw [withoutRuns, ask_rewire]
    exact (q.ask h t w).related_withoutRuns c
  arrivals t := by
    rintro _ c w _ ⟨rfl, rfl⟩
    exact ⟨rfl, (c.unrefused_receiveAll _).symm⟩
  stopped := by
    rintro _ c w _ ⟨rfl, rfl⟩
    rfl
  stop := by
    rintro _ c w _ ⟨rfl, rfl⟩
    exact ⟨rfl, c.unrefused_receive_stop.symm⟩

theorem recorded_simulation (h : Host W T) (name : String) :
    h.Simulation h.recorded (Link.recorded name) where
  asked q t := by
    rintro w c ⟨w', log⟩ c' hl
    obtain rfl : w' = w := hl.1
    rw [recorded, ask_rewire]
    exact (q.ask h t w').related_recorded hl
  arrivals t := by
    rintro w c ⟨w', log⟩ c' hl
    obtain rfl : w' = w := hl.1
    exact hl.receiveAll _
  stopped := by
    rintro w c w' _ ⟨-, rfl, -, -⟩
    rfl
  stop := by
    rintro w c w' _ ⟨hw, rfl, ha, hr⟩
    refine ⟨hw, rfl, by rw [Control.receive_active, ha], ?_⟩
    rw [Control.receive_stop ha]
    exact hr

end Host

/-! ## Runs -/

def RunReport.inWorld (r : RunReport W T) (world : W') : RunReport W' T :=
  ⟨r.engine, r.status, r.events, world, r.now, r.refusals⟩

namespace Engine

variable [Clock T]

section Run
variable (e : Engine) (host : Host W T) (flow : Flow) (tab : TabRef) (sink : Option Sink)
  (initial : List (String × Value)) (world : W) (now : T)

theorem result_agree {host : Host W T} {host' : Host W' T} {R : Link W W'}
    (hs : host.Simulation host' R) {world : W} {world' : W'}
    (hR : R world { active := some flow.name } world' { active := some flow.name }) :
    Activity.Agree R (e.result host flow tab sink initial world now)
      (e.result host' flow tab sink initial world' now) :=
  (Run.flow_uniform ⟨flow, e.engagement, sink⟩ tab W W').simulated hs ⟨rfl, hR⟩

def reportOf (r : Result W T RunStatus) : RunReport W T :=
  let status := match r.1 with
    | .done st => some st
    | _ => none
  { engine := { e with
      active := none
      store := r.2.2.store
      lastStatus := status.or e.lastStatus }
    status := status
    events := r.2.2.events
    world := r.2.1.world
    now := r.2.1.now
    refusals := r.2.1.control.refusals }

theorem run_eq : e.run host flow tab sink initial world now =
    e.reportOf (e.result host flow tab sink initial world now) := rfl

theorem run_withoutRuns :
    e.run host.withoutRuns flow tab sink initial world now =
      { e.run host flow tab sink initial world now with refusals := [] } := by
  have hstart : Link.unrefused world { active := some flow.name } world
      { active := some flow.name } := ⟨rfl, rfl⟩
  have hagree := e.result_agree flow tab sink initial now host.withoutRuns_simulation hstart
  obtain ⟨o, ⟨w, t, c⟩, ⟨w', t', c'⟩, p, hr, hr', hnow, hw, hc⟩ := hagree.split
  dsimp only at hnow hw hc
  subst hnow hw hc
  rw [run_eq, run_eq, hr, hr']
  rfl

/-- The host that keeps a record of requests gives the same run, and there is one refusal for each
run in the record. -/
theorem run_recorded :
    ∃ log, e.run host.recorded flow tab sink initial (world, []) now =
        (e.run host flow tab sink initial world now).inWorld
          ((e.run host flow tab sink initial world now).world, log) ∧
      (e.run host flow tab sink initial world now).refusals =
        (log.filter Request.isRun).map fun _ => .alreadyRunning (some flow.name) := by
  have hstart : Link.recorded flow.name world { active := some flow.name } (world, [])
      { active := some flow.name } := ⟨rfl, rfl, rfl, rfl⟩
  have hagree :=
    e.result_agree flow tab sink initial now (host.recorded_simulation flow.name) hstart
  obtain ⟨o, ⟨w, t, c⟩, ⟨⟨w', log⟩, t', c'⟩, p, hr, hr', hnow, hw, hc, -, hrefusals⟩ := hagree.split
  dsimp only at hnow hw hc hrefusals
  subst hnow hw hc
  refine ⟨log, ?_, ?_⟩
  · rw [run_eq, run_eq, hr, hr']
    rfl
  · rw [run_eq, hr]
    exact hrefusals

/-- How a run deals with the runs that are asked for while it is under way. -/
structure Excludes : Prop where
  /-- At every moment, and after all requests that follow it, the engine is busy with this flow
  and with no other. -/
  held : ∃ ms, e.RunsThrough host flow tab sink initial world now ms ∧ ∀ m ∈ ms, ∀ rs,
    e.HeldBy flow.name { m.scene with control := m.scene.control.receiveAll rs } m.progress
  /-- Each run that is asked for is refused, and nothing else is. -/
  answers : ∃ log, e.run host.recorded flow tab sink initial (world, []) now =
      (e.run host flow tab sink initial world now).inWorld
        ((e.run host flow tab sink initial world now).world, log) ∧
    (e.run host flow tab sink initial world now).refusals =
      (log.filter Request.isRun).map fun _ => .alreadyRunning (some flow.name)
  /-- The run is the one that there would be if nobody had asked. -/
  unmoved : e.run host.withoutRuns flow tab sink initial world now =
    { e.run host flow tab sink initial world now with refusals := [] }

theorem excludes : e.Excludes host flow tab sink initial world now where
  held := by
    obtain ⟨ms, hm⟩ := e.exists_runsThrough host flow tab sink initial world now
    have hcourse : Course.Flow ⟨flow, e.engagement, sink⟩ host [] tab
        ⟨world, now, { active := some flow.name }⟩ { store := Store.ofAssignments initial } ms
        _ := hm
    -- along a run the control is the one of its start with requests received, and none of these
    -- ends the run
    have halong := hcourse.along (Course.steady_control _ host) fun _ _ => ⟨[], rfl⟩
    refine ⟨ms, hm, fun m hmem rs => heldBy_of_active ?_⟩
    obtain ⟨rs', hcontrol⟩ := halong.first m hmem
    have hm' : m.scene.control = ({ active := some flow.name } : Control).receiveAll rs' := hcontrol
    show (m.scene.control.receiveAll rs).active = some flow.name
    rw [Control.receiveAll_active, hm', Control.receiveAll_active]
  answers := e.run_recorded host flow tab sink initial world now
  unmoved := e.run_withoutRuns host flow tab sink initial world now

end Run

/-! ## Sessions -/

structure Order where
  flow : Flow
  tab : TabRef := none
  sink : Option Sink := none
  initial : List (String × Value) := []

/-- What happens to an engine while it is idle. -/
inductive Entry (W T : Type) where
  | stop
  | run (order : Order)
  /-- Nothing is asked for, and time goes on. -/
  | meanwhile (change : W → T → W × T)

def Entry.isStop : Entry W T → Bool
  | stop => true
  | _ => false

/-- The runs of an engine to which one thing after another happens, each as soon as it is idle. A
run that never ends is the last one. -/
def serve (host : Host W T) : List (Entry W T) → Engine → W → T → List (RunReport W T)
  | [], _, _, _ => []
  | .stop :: rest, e, world, now => serve host rest e.stop world now
  | .meanwhile change :: rest, e, world, now =>
    serve host rest e (change world now).1 (change world now).2
  | .run o :: rest, e, world, now =>
    let r := e.run host o.flow o.tab o.sink o.initial world now
    r :: if r.status.isSome then serve host rest r.engine r.world r.now else []

/-- What an engine answers to the runs that it is asked for in this way. A run that it refuses
leaves it as it is. -/
def answers (host : Host W T) :
    List (Entry W T) → Engine → W → T → List (Except Fault (RunReport W T))
  | [], _, _, _ => []
  | .stop :: rest, e, world, now => answers host rest e.stop world now
  | .meanwhile change :: rest, e, world, now =>
    answers host rest e (change world now).1 (change world now).2
  | .run o :: rest, e, world, now =>
    match e.submit host o.flow o.tab o.sink o.initial world now with
    | .error f => .error f :: answers host rest e world now
    | .ok r => .ok r :: if r.status.isSome then answers host rest r.engine r.world r.now else []

theorem stop_of_idle {e : Engine} (he : e.active = none) : e.stop = e := by
  rw [stop, he, Option.map_none, ← he]

variable {host : Host W T}

/-- An engine that is idle at the start refuses none of the runs. -/
theorem answers_of_idle (entries : List (Entry W T)) {e : Engine} (he : e.active = none) (world : W)
    (now : T) : answers host entries e world now = (serve host entries e world now).map .ok := by
  induction entries generalizing e world now with
  | nil => rfl
  | cons entry rest ih =>
    cases entry with
    | stop =>
      have hidle : e.stop.active = none := by rw [stop_of_idle he, he]
      exact ih hidle world now
    | meanwhile change => exact ih he _ _
    | run o =>
      rw [answers, submit_of_idle he, serve, List.map_cons]
      dsimp only
      split
      · rw [ih rfl]
      · rfl

theorem serve_withoutStops (entries : List (Entry W T)) {e : Engine} (he : e.active = none)
    (world : W) (now : T) :
    serve host (entries.filter fun x => !x.isStop) e world now =
      serve host entries e world now := by
  induction entries generalizing e world now with
  | nil => rfl
  | cons entry rest ih =>
    cases entry with
    | stop =>
      show serve host (rest.filter fun x => !x.isStop) e world now =
        serve host rest e.stop world now
      rw [stop_of_idle he]
      exact ih he world now
    | meanwhile change => exact ih he _ _
    | run o =>
      have hrest := ih (e := (e.run host o.flow o.tab o.sink o.initial world now).engine) rfl
      show serve host (.run o :: rest.filter fun x => !x.isStop) e world now = _
      rw [serve, serve, hrest]

theorem serve_withoutRuns (entries : List (Entry W T)) (e : Engine) (world : W) (now : T) :
    serve host.withoutRuns entries e world now =
      (serve host entries e world now).map fun r => { r with refusals := [] } := by
  induction entries generalizing e world now with
  | nil => rfl
  | cons entry rest ih =>
    cases entry with
    | stop => exact ih e.stop world now
    | meanwhile change => exact ih e _ _
    | run o =>
      rw [serve, serve, run_withoutRuns, List.map_cons]
      dsimp only
      split
      · rw [ih]
      · rfl

theorem serve_runs (entries : List (Entry W T)) {e : Engine} (he : e.active = none) (world : W)
    (now : T) :
    ∀ r ∈ serve host entries e world now, ∃ (e : Engine) (o : Order) (world : W) (now : T),
      e.active = none ∧ r = e.run host o.flow o.tab o.sink o.initial world now := by
  induction entries generalizing e world now with
  | nil => exact fun r hr => absurd hr List.not_mem_nil
  | cons entry rest ih =>
    intro r hr
    cases entry with
    | stop =>
      have hidle : e.stop.active = none := by rw [stop_of_idle he, he]
      exact ih hidle world now r hr
    | meanwhile change => exact ih he _ _ r hr
    | run o =>
      rw [serve] at hr
      obtain rfl | hr := List.mem_cons.1 hr
      · exact ⟨e, o, world, now, he, rfl⟩
      · split at hr
        · exact ih rfl _ _ r hr
        · cases hr

/-- One run at a time. Over every host, whatever it hands over while runs are under way, and for
everything that happens to an engine between them: each run is taken up by an idle engine, refuses
all that are asked for meanwhile and is not moved by them, and leaves the engine idle when it ends.
A stop that an idle engine is asked for changes nothing, then or later. -/
theorem serve_excludes (g : Engagement) (host : Host W T) (entries : List (Entry W T)) (world : W)
    (now : T) :
    let fresh : Engine := { engagement := g }
    (∀ r ∈ serve host entries fresh world now,
      (∃ (e : Engine) (o : Order) (world : W) (now : T), e.active = none ∧
        r = e.run host o.flow o.tab o.sink o.initial world now ∧
        e.Excludes host o.flow o.tab o.sink o.initial world now) ∧
      (r.status.isSome → r.engine.active = none ∧ r.engine.stop = r.engine)) ∧
    answers host entries fresh world now = (serve host entries fresh world now).map .ok ∧
    serve host (entries.filter fun x => !x.isStop) fresh world now =
      serve host entries fresh world now ∧
    serve host.withoutRuns entries fresh world now =
      (serve host entries fresh world now).map fun r => { r with refusals := [] } := by
  intro fresh
  refine ⟨fun r hr => ?_, answers_of_idle entries rfl world now,
    serve_withoutStops entries rfl world now, serve_withoutRuns entries fresh world now⟩
  obtain ⟨e, o, world', now', he, rfl⟩ := serve_runs entries (e := fresh) rfl world now r hr
  have hexcludes := e.excludes host o.flow o.tab o.sink o.initial world' now'
  exact ⟨⟨e, o, world', now', he, rfl, hexcludes⟩, fun _ => ⟨rfl, stop_of_idle rfl⟩⟩

end Engine

end BrowserFlow
