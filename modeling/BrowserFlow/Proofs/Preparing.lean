import BrowserFlow.Proofs.Answers
import BrowserFlow.Proofs.Items

/-!
Repeaters that come to no pass. What a repeater fixes before its first pass it finds out without
a trace: whatever keeps it from entering that pass, nothing is reported, no block is started, and
the progress is as it was. A loop does not even look at the page, and a for-each only counts.

* `Course.Unentered`: a course without a pass.
* `Repeater.Counting`: the page calls of a for-each before its first pass.
* `Repeater.unentered_leaves_all`: what a repeater does that comes to no pass.
-/
namespace BrowserFlow
set_option autoImplicit false

open Activity

variable {W T : Type}

/-! ## Courses without a pass -/

def Course.Unentered (ms : List (Moment W T)) : Prop := ∀ m ∈ ms, ∀ n, m.deed ≠ .enter n

variable [Clock T] {a : Assignment} {h : Host W T} {ds : List T} {tab : TabRef} {s : Scene W T}
  {p : Progress T} {ms : List (Moment W T)}

/-- Passes of which none is entered are over at once: there are none, or a stop was asked for. -/
theorem Course.Passes.unentered {ρ : Repeater.Rounds} {body : List Block} {done left : Nat}
    {r : Result W T (TabRef × Nat)} (hc : Course.Passes a h ρ body ds done left tab s p ms r)
    (hnone : Course.Unentered ms) :
    ms = [] ∧ r.2.2 = p ∧ (left = 0 ∨ s.control.stopped = true) := by
  have hentered : ∀ rest : List (Moment W T),
      ¬ Course.Unentered (ρ.head a (done + 1) s p ++ rest) := by
    intro rest hrest
    exact hrest _ (List.mem_append_left _ (List.mem_cons_of_mem _ List.mem_cons_self)) _ rfl
  cases hc with
  | ended => exact ⟨rfl, rfl, .inl rfl⟩
  | stopped hstop => exact ⟨rfl, rfl, .inr hstop⟩
  | broke | cutShort | next =>
    rw [List.append_assoc] at hnone
    exact absurd hnone (hentered _)

theorem Course.Repeater.unentered {prep : Run W T Repeater.Setup} (hkeeps : Changes Eq prep)
    {r : Result W T RepeaterResult} (hc : Course.Repeater a h prep ds tab s p ms r)
    (hnone : Course.Unentered ms) : ms = [] ∧ r.2.2 = p := by
  have hsame := hkeeps h ds s p
  cases hc with
  | unready hprep =>
    rw [hprep] at hsame
    exact ⟨rfl, hsame.symm⟩
  | ready hprep hpasses =>
    rw [hprep] at hsame
    obtain ⟨hms, hp, -⟩ := hpasses.unentered hnone
    exact ⟨hms, hp.trans hsame.symm⟩

namespace Repeater

theorem Setup.run_idle {u : Setup} (hidle : u.count = 0 ∨ s.control.stopped = true) (tab : TabRef) :
    u.run a tab h ds s p = (.done ⟨tab, u.range.lastIndex, 0⟩, s, p) := by
  have hpasses : passes a (u.rounds.plan a) (u.range.select a.flow.blocks) 0 u.count tab h ds s p =
      (.done (tab, 0), s, p) := by
    cases hcount : u.count with
    | zero => rfl
    | succ left =>
      have hstop : s.control.stopped = true := hidle.resolve_left (by omega)
      rw [passes_succ, if_pos hstop]
  rw [Setup.run, bind_done hpasses]
  rfl

/-- A repeater that comes to no pass makes no page calls beside those of its preparation. -/
theorem makes_unentered {prep : (W : Type) → Run W T Setup}
    {x : (W : Type) → Run W T RepeaterResult}
    (hx : ∀ W, x W = prep W >>= fun u => u.run a tab) {cs : List PageCall}
    (hmakes : Makes prep h ds s p cs) {r : Result W T RepeaterResult}
    (hc : Course.Repeater a h (prep W) ds tab s p ms r) (hnone : Course.Unentered ms) :
    Makes x h ds s p cs := by
  unfold Makes at hmakes ⊢
  rw [hx, hx]
  cases hc with
  | unready hprep =>
    rw [hprep] at hmakes
    rw [bind_halt hprep, bind_halt hmakes]
  | @ready u s' p' _ _ hprep hpasses =>
    rw [hprep] at hmakes
    obtain ⟨-, -, hidle⟩ := hpasses.unentered hnone
    have hidle' : u.count = 0 ∨ (s'.noting cs).control.stopped = true := hidle
    rw [bind_done hprep, bind_done hmakes, Setup.run_idle hidle]
    exact Setup.run_idle hidle' tab

/-! ## What a preparation asks -/

omit [Clock T] in
theorem loopSetup_scene (index : Nat) : (loopSetup a index h ds s p).2.1 = s := by
  unfold loopSetup
  cases a.flow.blocks[index]? with
  | none => rfl
  | some b =>
    have hstore : (Run.store : Run W T Store) h ds s p = (.done p.store, s, p) := rfl
    dsimp only
    rw [bind_done hstore]
    cases loopCount a.engagement.config
      (Mapping.named (Template.interpolateAll p.store b.params) "count") with
    | error f => rfl
    | ok count => cases BodyRange.ofRepeater a.flow.blocks index <;> rfl

/-- The page calls of a for-each before its first pass: the attempts at one count of its items, once
it has a tab and a block. -/
inductive Counting (a : Assignment) (index : Nat) (tab : TabRef) (store : Store) :
    List PageCall → Prop
  | unasked : tab = none ∨ a.flow.blocks[index]? = none → Counting a index tab store []
  | asked {b : Block} {earlier : List PageCall} {last : PageCall} : tab ≠ none →
      a.flow.blocks[index]? = some b →
      PageCall.Series tab .count
        [(.text "selector", .text (parentOf store b)),
          (.text "child_selector", .text (childOf a.engagement.config store b))]
        a.engagement.retry.Repeats earlier last →
      earlier.length ≤ a.engagement.retry.maxRetries.toNat →
      Counting a index tab store (earlier ++ [last])

theorem forEachSetup_logs {index : Nat} {s s' : Scene (W × List PageCall) T} {p' : Progress T}
    {o : Outcome Setup} (hx : forEachSetup a index tab h.logging ds s p = (o, s', p')) :
    ∃ cs, s.Logs s' cs ∧ Counting a index tab p.store cs := by
  by_cases htab : tab = none
  · subst htab
    cases hx
    exact ⟨[], .refl _, .unasked (.inl rfl)⟩
  · cases hb : a.flow.blocks[index]? with
    | none =>
      rw [forEachSetup, if_neg (by simpa using htab), hb] at hx
      cases hx
      exact ⟨[], .refl _, .unasked (.inr hb)⟩
    | some b =>
      rw [forEachSetup_apply htab hb] at hx
      rcases hcount : (itemCount a.engagement tab (parentOf p.store b)
        (childOf a.engagement.config p.store b) : Errand (W × List PageCall) T Nat) h.logging ds
          s () with ⟨oc, s₁, ⟨⟩⟩
      obtain ⟨earlier, last, _, hlogs, htried, -⟩ := Dispatch.itemCount_tried hcount
      have hlift : ((itemCount a.engagement tab (parentOf p.store b)
          (childOf a.engagement.config p.store b)).lift : Run (W × List PageCall) T Nat)
            h.logging ds s p = (oc, s₁, p) := by rw [lift_apply, hcount]
      refine ⟨earlier ++ [last], ?_, .asked htab hb htried.toSeries htried.bounded⟩
      -- behind the count nothing is asked any more
      obtain ⟨n, rfl⟩ | ⟨e, rfl⟩ := oc.done_or_halt
      · rw [bind_done hlift] at hx
        cases hrange : BodyRange.ofRepeater a.flow.blocks index <;>
          rw [hrange] at hx <;> cases hx <;> exact hlogs
      · rw [bind_halt hlift] at hx
        cases hx
        exact hlogs

/-- Whatever a loop or a for-each comes to without entering a pass, it started no block and left the
progress as it was: its reports, its variables and what is to be left out. The loop made no page
call, and the for-each only those for the count of its items. -/
theorem unentered_leaves_all (a : Assignment) (index : Nat) (tab : TabRef) (h : Host W T)
    (ds : List T) (s : Scene W T) (p : Progress T) :
    (let run := loop a index tab h ds s p;
      (∃ ms, Course.Repeater a h (loopSetup a index) ds tab s p ms run) ∧
      ∀ ms, Course.Repeater a h (loopSetup a index) ds tab s p ms run → Course.Unentered ms →
        ms = [] ∧ run.2.2 = p ∧ Makes (fun W => (loop a index tab : Run W T _)) h ds s p []) ∧
    let run := forEach a index tab h ds s p;
    (∃ ms, Course.Repeater a h (forEachSetup a index tab) ds tab s p ms run) ∧
    ∀ ms, Course.Repeater a h (forEachSetup a index tab) ds tab s p ms run → Course.Unentered ms →
      ms = [] ∧ run.2.2 = p ∧
        ∃ cs, Makes (fun W => (forEach a index tab : Run W T _)) h ds s p cs ∧
          Counting a index tab p.store cs := by
  have hR (W W' : Type) : Composed True True a.engagement.config.elementPollMs
      fun P α (x : Activity W T P α) (x' : Activity W' T P α) => Alike False x x' :=
    Alike.composed False _
  refine ⟨⟨?_, fun ms hc hnone => ?_⟩, ?_, fun ms hc hnone => ?_⟩
  · rw [loop_eq]
    exact Course.exists_repeater (loopSetup a index) ds tab s p
  · obtain ⟨cs, hmakes, rfl⟩ : ∃ cs,
        Makes (fun W => (loopSetup a index : Run W T Setup)) h ds s p cs ∧
        cs = [] := by
      refine Makes.of_uniform (fun W W' => (hR W W').loopSetup index) (Q := fun cs _ _ => cs = [])
        fun o s' p' hx => ⟨[], ?_, rfl⟩
      have hscene : (loopSetup a index h.logging ds (s.noting []) p).2.1 = s.noting [] :=
        loopSetup_scene index
      rw [hx] at hscene
      obtain rfl : s' = s.noting [] := hscene
      exact .refl _
    obtain ⟨hms, hp⟩ := hc.unentered (loopSetup_keeps index) hnone
    exact ⟨hms, hp, makes_unentered (fun W => loop_eq a index tab) hmakes hc hnone⟩
  · rw [forEach_eq]
    exact Course.exists_repeater (forEachSetup a index tab) ds tab s p
  · obtain ⟨cs, hmakes, hcounting⟩ : ∃ cs,
        Makes (fun W => (forEachSetup a index tab : Run W T Setup)) h ds s p cs ∧
        Counting a index tab p.store cs :=
      Makes.of_uniform (fun W W' => (hR W W').forEachSetup trivial index tab)
        (Q := fun cs _ _ => Counting a index tab p.store cs) fun _ _ _ => forEachSetup_logs
    obtain ⟨hms, hp⟩ := hc.unentered (forEachSetup_keeps index tab) hnone
    exact ⟨hms, hp, cs, makes_unentered (fun W => forEach_eq a index tab) hmakes hc hnone,
      hcounting⟩

/-- A page that is busy at first, and then has no items. -/
def emptyList : Scene (List (Except Fault (Option PageResult))) Rat :=
  Dispatch.answering [.ok none, .ok (some (.ofData (.int 0)))]

theorem unentered_leaves_all_emptyList :
    let tab : TabRef := some (.number 1)
    let run := forEach keeping 0 tab Dispatch.scripted [] emptyList {}
    run.1 = .failed (.noItems "ul" "li") ∧
      Course.Repeater keeping Dispatch.scripted (forEachSetup keeping 0 tab) [] tab emptyList {} []
        run ∧
      Course.Unentered ([] : List (Moment (List (Except Fault (Option PageResult))) Rat)) ∧
      run.2.2 = {} ∧
      ∃ cs, Makes (fun W => (forEach keeping 0 tab : Run W Rat _)) Dispatch.scripted [] emptyList {}
          cs ∧ Counting keeping 0 tab [] cs := by
  intro tab run
  have hrun : run = ((Halt.failed (.noItems "ul" "li")).outcome, run.2.1, {}) := rfl
  have hcourse : Course.Repeater keeping Dispatch.scripted (forEachSetup keeping 0 tab) [] tab
      emptyList {} [] run := by
    rw [hrun]
    exact .unready rfl
  have hnone :
      Course.Unentered ([] : List (Moment (List (Except Fault (Option PageResult))) Rat)) :=
    fun _ hm => absurd hm List.not_mem_nil
  obtain ⟨-, -, hleft⟩ := unentered_leaves_all keeping 0 tab Dispatch.scripted [] emptyList {}
  obtain ⟨-, hkept, hcounting⟩ := hleft [] hcourse hnone
  exact ⟨rfl, hcourse, hnone, hkept, hcounting⟩

end Repeater

end BrowserFlow
