import BrowserFlow.Proofs.Account
import BrowserFlow.Text.Digit

/-!
No report of a run is made twice, so that whoever receives the reports can tell them apart. The
count tells the reports of one unit from those of the next; within a unit the passes are numbered,
and no pass is announced as its repeater is.
-/
namespace BrowserFlow
set_option autoImplicit false

variable {W T : Type} [Clock T]

/-! ## Announcements -/

namespace Repeater

theorem isRepeater_of_setup? {a : Assignment} {b : Block} {index : Nat} {tab : TabRef}
    {prep : Run W T Setup} (hs : setup? a b index tab = some prep) : b.isRepeater = true := by
  rw [← Bool.not_eq_false]
  intro hb
  rw [setup?_eq_none.2 hb] at hs
  cases hs

theorem progressText_injective {icon title : String} {n m count : Nat}
    (hn : progressText icon title n count = progressText icon title m count) : n = m := by
  unfold progressText at hn
  simp only [String.append_left_inj, String.append_right_inj] at hn
  exact Text.toString_injective hn

theorem slash_mem_progressText (icon title : String) (n count : Nat) :
    '/' ∈ (progressText icon title n count).toList := by
  have hslash : '/' ∈ "/".toList := by decide
  simp only [progressText, String.toList_append, List.mem_append, hslash, or_true, true_or]

/-- Passes are announced by their number and how many there are. -/
def Rounds.Numbered (ρ : Rounds) : Prop :=
  ∃ icon title count, ∀ n, ρ.message n = progressText icon title n count

theorem setup?_numbered {a : Assignment} {b : Block} {index : Nat} {tab : TabRef}
    {prep : Run W T Setup} (hs : setup? a b index tab = some prep) :
    Activity.Gives (fun u => u.rounds.Numbered) prep := by
  unfold setup? at hs
  split at hs
  · cases hs
    unfold loopSetup
    split
    · exact .fail _
    · refine .bind fun store => .bind fun count => .bind fun range => .pure ?_
      exact ⟨_, _, _, fun _ => rfl⟩
  · cases hs
    unfold forEachSetup
    refine .ite (.fail _) ?_
    split
    · exact .fail _
    · refine .bind fun store => .bind fun count => .bind fun range => .pure ?_
      exact ⟨_, _, _, fun _ => rfl⟩
  · cases hs

theorem slash_notMem_running {k : BlockKind} (hk : k.isRepeater = true) :
    '/' ∉ ((Display.ofKind k).title ++ " running...").toList := by
  cases k with
  | loop => decide
  | forEach => decide
  | _ => cases hk

/-- No pass is announced as its repeater is. -/
theorem Rounds.Numbered.message_ne {ρ : Rounds} {b : Block} {n : Nat} (hρ : ρ.Numbered)
    (hb : b.isRepeater = true) : ρ.message n ≠ (Display.ofTag b.type).title ++ " running..." := by
  intro he
  obtain ⟨icon, title, count, hm⟩ := hρ
  have hslash := slash_mem_progressText icon title n count
  rw [← hm, he, Display.ofTag] at hslash
  rw [Block.isRepeater, Block.kind?] at hb
  cases hk : BlockKind.ofValue? b.type with
  | none =>
    rw [hk] at hb
    cases hb
  | some k =>
    rw [hk] at hb hslash
    exact slash_notMem_running hb hslash

theorem Rounds.Numbered.status_injective {ρ : Rounds} {a : Assignment} {n m reached : Nat}
    (hρ : ρ.Numbered) (hs : ρ.status a n reached = ρ.status a m reached) : n = m := by
  obtain ⟨icon, title, count, hm⟩ := hρ
  have hmessage : ρ.message n = ρ.message m := congrArg RunStatus.message hs
  rw [hm, hm] at hmessage
  exact progressText_injective hmessage

end Repeater

/-! ## Along a course -/

namespace Course
variable {a : Assignment} {h : Host W T} {ds : List T} {tab : TabRef} {s : Scene W T}
  {p : Progress T} {ms : List (Moment W T)}

omit [Clock T] in
def reports (ms : List (Moment W T)) : List RunStatus := (events ms).map (·.status)

omit [Clock T] in
theorem reports_append (ms ms' : List (Moment W T)) :
    reports (ms ++ ms') = reports ms ++ reports ms' := by
  rw [reports, events_append, List.map_append]
  rfl

/-- Between the beginning of a pass and its end nothing is reported. -/
theorem Blocks.reports_eq_nil {n : Nat} {f : Block → Block} {bs : List Block}
    {r : Result W T TabRef} (hc : Blocks a h n f ds bs tab s p ms r) : reports ms = [] := by
  induction hc with
  | nil => rfl
  | stopped hs => rfl
  | disabled hs hb hc ih => exact ih
  | leftOut hs hb hk hc ih => exact ih
  | broke hs hb hk hr => rfl
  | ran hs hb hk hr hc ih => exact ih

/-- The reports of a repeater are those of its passes, from the next one on. -/
theorem Passes.reports_eq {ρ : Repeater.Rounds} {body : List Block} {done left : Nat}
    {r : Result W T (TabRef × Nat)} (hc : Passes a h ρ body ds done left tab s p ms r) :
    ∃ k, reports ms = (List.range' (done + 1) k).map fun n => ρ.status a n p.reached := by
  have head {n : Nat} {tab : TabRef} {s : Scene W T} {p : Progress T} {ms : List (Moment W T)}
      {r : Result W T TabRef} (ms' : List (Moment W T)) (hp : Pass a h ρ body ds n tab s p ms r) :
      reports (ρ.head a n s p ++ ms ++ ms') = ρ.status a n p.reached :: reports ms' := by
    rw [reports_append, reports_append, Blocks.reports_eq_nil hp]
    rfl
  induction hc with
  | ended => exact ⟨0, rfl⟩
  | stopped hs => exact ⟨0, rfl⟩
  | broke hs hp => exact ⟨1, head _ hp⟩
  | cutShort hs hp hs' => exact ⟨1, head _ hp⟩
  | @next _ _ _ _ _ _ _ _ p' ms' _ hs hp hs' hc ih =>
    obtain ⟨k, hk⟩ := ih
    have hreached : p'.reached = _ := (Blocks.inside hp).reached
    refine ⟨k + 1, (head _ hp).trans ?_⟩
    rw [List.range'_succ, List.map_cons]
    refine congrArg _ (hk.trans ?_)
    rw [Progress.settled, hreached]
    rfl

/-- A unit and its passes are reported in different ways, and with the same count. -/
theorem Unit.reports_nodup {index : Nat} {b : Block} {r : Result W T (Nat × TabRef)}
    (hc : Unit a h ds index b tab s p ms r) :
    (Run.unitStatus a b p.reached :: reports ms).Nodup ∧
      ∀ st ∈ reports ms, st.current = p.reached := by
  have single : (Run.unitStatus a b p.reached :: reports ([] : List (Moment W T))).Nodup ∧
      ∀ st ∈ reports ([] : List (Moment W T)), st.current = p.reached :=
    ⟨List.pairwise_singleton .., fun _ hst => absurd hst List.not_mem_nil⟩
  cases hc with
  | late hu => exact single
  | single hr hu hm => exact single
  | @repeated prep inner ms r hp hu hc =>
    cases hc with
    | unready hu => exact single
    | @ready u s' p' ms r hready hc =>
      have hkeep := Repeater.setup?_keeps hp h inner (Activity.yielded h s) p
      rw [hready] at hkeep
      subst hkeep
      have hρ := Repeater.setup?_numbered hp _ _ _ _ _ _ _ hready
      obtain ⟨k, hk⟩ := hc.reports_eq
      have hb : b.isRepeater = true :=
        Repeater.isRepeater_of_setup? hp
      rw [hk]
      refine ⟨List.nodup_cons.2 ⟨fun hst => ?_, ?_⟩, fun st hst => ?_⟩
      · obtain ⟨n, -, hn⟩ := List.mem_map.1 hst
        exact hρ.message_ne hb (congrArg RunStatus.message hn)
      · refine List.pairwise_map.2 ((List.nodup_range' 1).imp fun hne he => ?_)
        exact hne (hρ.status_injective he)
      · obtain ⟨n, -, rfl⟩ := List.mem_map.1 hst
        rfl

theorem Scan.reports_nodup {index : Nat} {r : Result W T TabRef}
    (hc : Scan a h ds index tab s p ms r) :
    (reports ms).Nodup ∧ ∀ st ∈ reports ms, p.reached < st.current := by
  have head {index : Nat} {b : Block} {tab : TabRef} {s : Scene W T} {p : Progress T}
      {ms : List (Moment W T)} {r : Result W T (Nat × TabRef)} (ms' : List (Moment W T))
      (hu : Started a h ds index b tab s p ms r)
      (hms : (reports ms').Nodup ∧ ∀ st ∈ reports ms', p.reached + 1 < st.current) :
      (reports (Run.unitHead a index b tab s p ++ ms ++ ms')).Nodup ∧
        ∀ st ∈ reports (Run.unitHead a index b tab s p ++ ms ++ ms'), p.reached < st.current := by
    obtain ⟨hnodup, hcurrent⟩ := Unit.reports_nodup hu
    have hcurrent : ∀ st ∈ Run.unitStatus a b (p.reached + 1) :: reports ms,
        st.current = p.reached + 1 := List.forall_mem_cons.2 ⟨rfl, hcurrent⟩
    have heq : reports (Run.unitHead a index b tab s p ++ ms ++ ms') =
        (Run.unitStatus a b (p.reached + 1) :: reports ms) ++ reports ms' := by
      rw [reports_append, reports_append]
      rfl
    rw [heq]
    refine ⟨List.nodup_append.2 ⟨hnodup, hms.1, fun st hst st' hst' he => ?_⟩,
      List.forall_mem_append.2 ⟨fun st hst => ?_, fun st hst => ?_⟩⟩
    · have hlt := hms.2 st' hst'
      have heq := hcurrent st hst
      rw [he] at heq
      omega
    · have heq := hcurrent st hst
      omega
    · have hlt := hms.2 st hst
      omega
  induction hc with
  | ended hi => exact ⟨.nil, fun _ hst => absurd hst List.not_mem_nil⟩
  | stopped hb hs => exact ⟨.nil, fun _ hst => absurd hst List.not_mem_nil⟩
  | disabled hb hs he hc ih => exact ih
  | leftOut hb hs he hk hc ih =>
    exact ⟨ih.1, fun st hst => Nat.lt_of_succ_lt (ih.2 st hst)⟩
  | broke hb hs he hk hu =>
    exact head _ hu ⟨.nil, fun _ hst => absurd hst List.not_mem_nil⟩
  | @ran index b tab s p ms next tab' s' p' ms' r hb hs he hk hu hc ih =>
    have hreached : p'.reached = p.reached + 1 := (hu.inside hk).reached
    rw [hreached] at ih
    exact head _ hu ih

end Course
end BrowserFlow
