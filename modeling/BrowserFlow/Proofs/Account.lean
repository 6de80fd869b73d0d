import BrowserFlow.Proofs.Along

/-!
The account of a course. The events of a run are the reports of its course, the positions that it
reached are enabled ones in increasing order, and it fails with the fault of the one top-level
block that failed. Each moment is sound: nothing is reached, left out or reported once a stop was
asked for, and passes are entered and left with nothing to be left out.
-/
namespace BrowserFlow
set_option autoImplicit false

variable {W T : Type}

/-! ## Reading a course -/

def Moment.isStopped (m : Moment W T) : Bool := m.scene.control.stopped

/-- The event of a moment, if it is a report. -/
def Moment.event? (m : Moment W T) : Option (Event T) :=
  match m.deed with
  | .report _ status => some ⟨status, m.progress.position, m.scene.now⟩
  | _ => none

def Deed.reached? : Deed → Option Nat
  | .reach index => some index
  | _ => none

/-- The top-level position whose block a deed starts or leaves out. -/
def Deed.handled? : Deed → Option Nat
  | .start (.top index) _ _ | .leaveOut (.top index) _ => some index
  | _ => none

/-- The fault that a top-level block ends with. -/
def Deed.raised? : Deed → Option Fault
  | .finish (.top _) _ (.failed f) => some f
  | _ => none

/-- Whether a deed is one of the body of a repeater. -/
def Deed.isInner : Deed → Bool
  | .report (.pass _) _ | .leaveOut (.body _) _ | .start (.body _) _ _ | .finish (.body _) _ _
  | .enter _ | .leave _ => true
  | _ => false

/-- What holds at a moment between the first and the last report of a run. -/
def Moment.Sound (a : Assignment) (m : Moment W T) : Prop :=
  match m.deed with
  | .reach index =>
    m.isStopped = false ∧ ∃ b, a.flow.blocks[index]? = some b ∧ b.enabled = true
  | .leaveOut _ _ => m.isStopped = false
  | .report topic status =>
    m.isStopped = false ∧ topic ≠ .opening ∧ topic ≠ .closing ∧
      ∃ message icon, status = Run.statusOf a.flow m.progress.reached .running message none icon
  | .start (.top index) b _ => a.flow.blocks[index]? = some b
  | .start (.body _) _ _ => m.isStopped = false
  | .finish _ _ _ => True
  | .enter _ | .leave _ => m.progress.skips = 0

namespace Course

def events (ms : List (Moment W T)) : List (Event T) := ms.filterMap Moment.event?

def visited (ms : List (Moment W T)) : List Nat := ms.filterMap fun m => m.deed.reached?

def handled (ms : List (Moment W T)) : List Nat := ms.filterMap fun m => m.deed.handled?

def raised (ms : List (Moment W T)) : List Fault := ms.filterMap fun m => m.deed.raised?

theorem events_cons (m : Moment W T) (ms : List (Moment W T)) :
    events (m :: ms) = m.event?.toList ++ events ms := by
  rw [events, List.filterMap_cons]
  cases m.event? <;> rfl

theorem events_append (ms ms' : List (Moment W T)) : events (ms ++ ms') = events ms ++ events ms' :=
  List.filterMap_append

theorem visited_append (ms ms' : List (Moment W T)) :
    visited (ms ++ ms') = visited ms ++ visited ms' :=
  List.filterMap_append

theorem handled_append (ms ms' : List (Moment W T)) :
    handled (ms ++ ms') = handled ms ++ handled ms' :=
  List.filterMap_append

theorem raised_append (ms ms' : List (Moment W T)) : raised (ms ++ ms') = raised ms ++ raised ms' :=
  List.filterMap_append

section Inner
variable {ms : List (Moment W T)} (hm : ∀ m ∈ ms, m.deed.isInner = true)
include hm

theorem visited_eq_nil : visited ms = [] := by
  refine List.filterMap_eq_nil_iff.2 fun m h => ?_
  have hi := hm m h
  cases hd : m.deed <;> simp_all [Deed.isInner, Deed.reached?]

theorem handled_eq_nil : handled ms = [] := by
  refine List.filterMap_eq_nil_iff.2 fun m h => ?_
  have hi := hm m h
  cases hd : m.deed with
  | leaveOut scope b => cases scope <;> simp_all [Deed.isInner, Deed.handled?]
  | start scope b tab => cases scope <;> simp_all [Deed.isInner, Deed.handled?]
  | _ => rfl

theorem raised_eq_nil : raised ms = [] := by
  refine List.filterMap_eq_nil_iff.2 fun m h => ?_
  have hi := hm m h
  cases hd : m.deed with
  | finish scope b o => cases scope <;> simp_all [Deed.isInner, Deed.raised?]
  | _ => rfl

end Inner

end Course

variable [Clock T]

/-! ## Inside a unit -/

/-- A block changes the variables and what is to be left out, and nothing else of the progress. -/
theorem Run.block_changes (a : Assignment) (b : Block) (tab : TabRef) :
    Activity.Changes (fun p q : Progress T => q.reached = p.reached ∧ q.events = p.events)
      (block a b tab : Run W T TabRef) := by
  have refl (p : Progress T) : p.reached = p.reached ∧ p.events = p.events := ⟨rfl, rfl⟩
  have seq {α β : Type} {x : Run W T α} {f : α → Run W T β}
      (hx : Activity.Changes (fun p q => q.reached = p.reached ∧ q.events = p.events) x)
      (hf : ∀ a, Activity.Changes (fun p q => q.reached = p.reached ∧ q.events = p.events) (f a)) :
      Activity.Changes (fun p q => q.reached = p.reached ∧ q.events = p.events) (x >>= f) :=
    .bind (fun _ _ _ h h' => ⟨h'.1.trans h.1, h'.2.trans h.2⟩) hx hf
  have read : Activity.Changes (fun p q => q.reached = p.reached ∧ q.events = p.events)
      (Run.store : Run W T Store) := fun _ _ _ p => refl p
  refine .ite (seq (seq read fun store => seq (.lift refl _) fun verdict => ?_)
    fun _ => .pure refl _) (seq read fun store => seq (.lift refl _) fun result => ?_)
  · refine .ite (.pure refl _) ?_
    split
    · exact .fail refl _
    · exact .modify fun p => refl p
  · exact seq (.modify fun p => refl p) fun _ => .pure refl _

namespace Course

/-- The account of a part of a run inside one unit, from one progress to another. -/
structure Inside (a : Assignment) (p : Progress T) (ms : List (Moment W T)) (q : Progress T) :
    Prop where
  sound : ∀ m ∈ ms, m.Sound a
  inner : ∀ m ∈ ms, m.deed.isInner = true
  reached : q.reached = p.reached
  events : q.events = p.events ++ Course.events ms

variable {a : Assignment} {h : Host W T} {ds : List T} {tab : TabRef} {s : Scene W T}
  {p q : Progress T} {ms ms' : List (Moment W T)}

namespace Inside

omit [Clock T] in
theorem nil (hr : q.reached = p.reached) (he : q.events = p.events) :
    Inside a p ([] : List (Moment W T)) q where
  sound _ hm := absurd hm List.not_mem_nil
  inner _ hm := absurd hm List.not_mem_nil
  reached := hr
  events := he.trans (List.append_nil _).symm

omit [Clock T] in
theorem cons {m : Moment W T} {q' : Progress T} (hs : m.Sound a) (hi : m.deed.isInner = true)
    (hr : q'.reached = p.reached) (he : q'.events = p.events ++ m.event?.toList)
    (hm : Inside a q' ms q) : Inside a p (m :: ms) q where
  sound := List.forall_mem_cons.2 ⟨hs, hm.sound⟩
  inner := List.forall_mem_cons.2 ⟨hi, hm.inner⟩
  reached := hm.reached.trans hr
  events := by
    rw [hm.events, he, List.append_assoc, Course.events_cons]

omit [Clock T] in
theorem append {q' : Progress T} (hm : Inside a p ms q') (hm' : Inside a q' ms' q) :
    Inside a p (ms ++ ms') q where
  sound m h := (List.mem_append.1 h).elim (hm.sound m) (hm'.sound m)
  inner m h := (List.mem_append.1 h).elim (hm.inner m) (hm'.inner m)
  reached := hm'.reached.trans hm.reached
  events := by
    rw [hm'.events, hm.events, List.append_assoc, Course.events_append]

end Inside

theorem Blocks.inside {n : Nat} {f : Block → Block} {bs : List Block} {r : Result W T TabRef}
    (hc : Blocks a h n f ds bs tab s p ms r) : Inside a p ms r.2.2 := by
  induction hc with
  | nil => exact .nil rfl rfl
  | stopped hs => exact .nil rfl rfl
  | disabled hs hb hc ih => exact ih
  | leftOut hs hb hk hc ih =>
    refine .cons hs rfl ?_ ?_ ih
    · rfl
    · exact (List.append_nil _).symm
  | @broke b rest tab s p s' p' e hs hb hk hr =>
    have hq := Run.block_changes a (f b) tab h ds s p
    rw [hr] at hq
    refine .cons hs rfl rfl (List.append_nil _).symm ?_
    exact .cons trivial rfl hq.1 (hq.2.trans (List.append_nil _).symm) (.nil rfl rfl)
  | @ran b rest tab s p tab' s' p' ms r hs hb hk hr hc ih =>
    have hq := Run.block_changes a (f b) tab h ds s p
    rw [hr] at hq
    refine .cons hs rfl rfl (List.append_nil _).symm ?_
    exact .cons trivial rfl hq.1 (hq.2.trans (List.append_nil _).symm) ih

/-- A pass is entered with nothing to be left out when this holds at its announcement. -/
theorem Pass.inside {ρ : Repeater.Rounds} {body : List Block} {n : Nat} {r : Result W T TabRef}
    (hs : s.control.stopped = false) (hk : p.skips = 0)
    (hc : Pass a h ρ body ds n tab s p ms r) : Inside a p (ρ.head a n s p ++ ms) r.2.2 := by
  refine .cons ⟨hs, nofun, nofun, _, _, rfl⟩ rfl ?_ ?_ (.cons hk rfl rfl ?_ (Blocks.inside hc))
  · rfl
  · rfl
  · exact (List.append_nil _).symm

theorem Passes.inside {ρ : Repeater.Rounds} {body : List Block} {done left : Nat}
    {r : Result W T (TabRef × Nat)} (hk : p.skips = 0)
    (hc : Passes a h ρ body ds done left tab s p ms r) :
    Inside a p ms r.2.2 ∧ r.2.2.skips = 0 := by
  have leave (n : Nat) (s' : Scene W T) (p' : Progress T) :
      Inside a p' [⟨.leave n, s', p'.settled⟩] p'.settled :=
    .cons rfl rfl rfl (List.append_nil _).symm (.nil rfl rfl)
  induction hc with
  | ended => exact ⟨.nil rfl rfl, hk⟩
  | stopped hs => exact ⟨.nil rfl rfl, hk⟩
  | broke hs hp => exact ⟨(hp.inside hs hk).append (leave ..), rfl⟩
  | cutShort hs hp hs' => exact ⟨(hp.inside hs hk).append (leave ..), rfl⟩
  | @next _ _ _ _ _ _ _ _ p' _ _ hs hp hs' hc ih =>
    obtain ⟨hm, hr⟩ := ih rfl
    refine ⟨(hp.inside hs hk).append (.cons rfl rfl ?_ ?_ hm), hr⟩
    · rfl
    · exact (List.append_nil _).symm

theorem Repeater.inside {b : Block} {index : Nat} {t : TabRef} {prep : Run W T Repeater.Setup}
    (hp : Repeater.setup? a b index t = some prep) {r : Result W T RepeaterResult}
    (hk : p.skips = 0) (hc : Repeater a h prep ds tab s p ms r) :
    Inside a p ms r.2.2 ∧ r.2.2.skips = 0 := by
  have hkeep := Repeater.setup?_keeps hp h ds s p
  cases hc with
  | unready hu =>
    rw [hu] at hkeep
    subst hkeep
    exact ⟨.nil rfl rfl, hk⟩
  | ready hu hc =>
    rw [hu] at hkeep
    subst hkeep
    exact hc.inside hk

theorem Unit.inside {index : Nat} {b : Block} {r : Result W T (Nat × TabRef)} (hk : p.skips = 0)
    (hc : Unit a h ds index b tab s p ms r) : Inside a p ms r.2.2 := by
  cases hc with
  | late hb => exact .nil rfl rfl
  | @single inner r hb hi hr =>
    have hq := Run.block_changes a b tab h inner (Activity.yielded h s) p
    rw [hr] at hq
    exact .nil hq.1 hq.2
  | repeated hp hb hc => exact (hc.inside hp hk).1

/-! ## The scan -/

def faults {α : Type} : Outcome α → List Fault
  | .failed f => [f]
  | _ => []

/-- The account of a scan from a position on, from one progress to another. -/
structure Scanned (a : Assignment) (index : Nat) (p : Progress T) (ms : List (Moment W T))
    (q : Progress T) : Prop where
  sound : ∀ m ∈ ms, m.Sound a
  events : q.events = p.events ++ Course.events ms
  reached : q.reached = p.reached + (visited ms).length
  handled : Course.handled ms = visited ms
  later : ∀ i ∈ visited ms, index ≤ i
  ascending : (visited ms).Pairwise (· < ·)
  room : (visited ms).length ≤ (a.flow.blocks.drop index).countP (·.enabled)

omit [Clock T] in
theorem Scanned.nil {index : Nat} : Scanned a index p ([] : List (Moment W T)) p where
  sound _ hm := absurd hm List.not_mem_nil
  events := (List.append_nil _).symm
  reached := rfl
  handled := rfl
  later _ hi := absurd hi List.not_mem_nil
  ascending := .nil
  room := Nat.zero_le _

omit [Clock T] in
/-- A scan that handles one position and then goes on from a later one. -/
theorem Scanned.cons {index next : Nat} {b : Block} {q' : Progress T}
    (hb : a.flow.blocks[index]? = some b) (he : b.enabled = true) (hn : index < next)
    (hs : ∀ m ∈ ms, m.Sound a) (hv : visited ms = [index]) (hh : Course.handled ms = [index])
    (hr : q'.reached = p.reached + 1) (hev : q'.events = p.events ++ Course.events ms)
    (hm : Scanned a next q' ms' q) : Scanned a index p (ms ++ ms') q where
  sound := List.forall_mem_append.2 ⟨hs, hm.sound⟩
  events := by rw [hm.events, hev, events_append, List.append_assoc]
  reached := by
    rw [hm.reached, hr, visited_append, hv, List.length_append, List.length_singleton]
    omega
  handled := by rw [handled_append, visited_append, hv, hh, hm.handled]
  later := by
    rw [visited_append, hv]
    refine List.forall_mem_cons.2 ⟨Nat.le_refl _, fun i hi => ?_⟩
    exact Nat.le_trans (Nat.le_of_lt hn) (hm.later i hi)
  ascending := by
    rw [visited_append, hv]
    exact List.pairwise_cons.2 ⟨fun i hi => Nat.lt_of_lt_of_le hn (hm.later i hi), hm.ascending⟩
  room := by
    obtain ⟨hi, rfl⟩ := List.getElem?_eq_some_iff.1 hb
    have hle : index + 1 ≤ next := hn
    have hsub := (List.drop_sublist_drop_left a.flow.blocks hle).countP_le (p := (·.enabled))
    have hcount : (a.flow.blocks.drop index).countP (·.enabled) =
        (a.flow.blocks.drop (index + 1)).countP (·.enabled) + 1 := by
      rw [List.drop_eq_getElem_cons hi]
      exact List.countP_cons_of_pos he
    have hroom := hm.room
    rw [visited_append, hv, List.length_append, List.length_singleton]
    omega

section Unit
variable {index : Nat} {b : Block}

omit [Clock T] in
theorem visited_unit (hi : ∀ m ∈ ms, m.deed.isInner = true) :
    visited (Run.unitHead a index b tab s p ++ ms ++ ms') = index :: visited ms' := by
  rw [visited_append, visited_append, visited_eq_nil hi]
  rfl

omit [Clock T] in
theorem handled_unit (hi : ∀ m ∈ ms, m.deed.isInner = true) :
    Course.handled (Run.unitHead a index b tab s p ++ ms ++ ms') = index :: Course.handled ms' := by
  rw [handled_append, handled_append, handled_eq_nil hi]
  rfl

omit [Clock T] in
theorem raised_unit (hi : ∀ m ∈ ms, m.deed.isInner = true) :
    raised (Run.unitHead a index b tab s p ++ ms ++ ms') = raised ms' := by
  rw [raised_append, raised_append, raised_eq_nil hi]
  rfl

theorem Started.inside {r : Result W T (Nat × TabRef)} (hk : p.skips = 0)
    (hc : Started a h ds index b tab s p ms r) :
    Inside a ((p.reaching index).reporting (Run.unitStatus a b (p.reached + 1)) s.now) ms r.2.2 :=
  Unit.inside (p := (p.reaching index).reporting (Run.unitStatus a b (p.reached + 1)) s.now) hk hc

theorem Started.sound {r : Result W T (Nat × TabRef)} (hb : a.flow.blocks[index]? = some b)
    (hs : s.control.stopped = false) (he : b.enabled = true) (hk : p.skips = 0)
    (hc : Started a h ds index b tab s p ms r) :
    ∀ m ∈ Run.unitHead a index b tab s p ++ ms, m.Sound a := by
  refine List.forall_mem_append.2 ⟨?_, (hc.inside hk).sound⟩
  refine List.forall_mem_cons.2 ⟨⟨hs, b, hb, he⟩, List.forall_mem_cons.2 ⟨?_, ?_⟩⟩
  · exact ⟨hs, nofun, nofun, _, _, rfl⟩
  · exact List.forall_mem_singleton.2 hb

theorem Started.events {r : Result W T (Nat × TabRef)} (hk : p.skips = 0)
    (hc : Started a h ds index b tab s p ms r) :
    r.2.2.events = p.events ++ Course.events (Run.unitHead a index b tab s p ++ ms) := by
  rw [(hc.inside hk).events, events_append]
  exact List.append_assoc _ _ _

end Unit

theorem Scan.account {index : Nat} {r : Result W T TabRef}
    (hc : Scan a h ds index tab s p ms r) : Scanned a index p ms r.2.2 := by
  induction hc with
  | ended hi => exact .nil
  | stopped hb hs => exact .nil
  | @disabled index _ _ _ _ _ _ hb hs he hc ih =>
    have hsub := (List.drop_sublist_drop_left a.flow.blocks (Nat.le_add_right index 1)).countP_le
      (p := (·.enabled))
    exact { ih with
      later := fun i hi => Nat.le_of_succ_le (ih.later i hi)
      room := Nat.le_trans ih.room hsub }
  | @leftOut index b tab s p ms r hb hs he hk hc ih =>
    have hlt := Run.lt_afterSkipped a.flow.blocks index b
    show Scanned a index p
      ([⟨.reach index, s, p⟩, ⟨.leaveOut (.top index) b, s, p.reaching index⟩] ++ ms) r.2.2
    refine .cons hb he hlt ?_ ?_ ?_ ?_ ?_ ih
    · exact List.forall_mem_cons.2 ⟨⟨hs, b, hb, he⟩, List.forall_mem_singleton.2 hs⟩
    · rfl
    · rfl
    · rfl
    · exact (List.append_nil _).symm
  | @broke index b tab s p ms s' p' e hb hs he hk hu =>
    rw [← List.append_nil (_ ++ [_])]
    refine .cons hb he (Nat.lt_succ_self index) ?_ (visited_unit (hu.inside hk).inner)
      (handled_unit (hu.inside hk).inner) (hu.inside hk).reached ?_ .nil
    · exact List.forall_mem_append.2 ⟨hu.sound hb hs he hk, List.forall_mem_singleton.2 trivial⟩
    · rw [events_append _ [_], hu.events hk]
      exact congrArg _ (List.append_nil _).symm
  | @ran index b tab s p ms next tab' s' p' ms' r hb hs he hk hu hc ih =>
    have hlt := Run.lt_afterSkipped a.flow.blocks index b
    rw [← hu.next_eq] at hlt
    rw [List.append_cons]
    refine .cons hb he hlt ?_ (visited_unit (hu.inside hk).inner)
      (handled_unit (hu.inside hk).inner) (hu.inside hk).reached ?_ ih
    · exact List.forall_mem_append.2 ⟨hu.sound hb hs he hk, List.forall_mem_singleton.2 trivial⟩
    · rw [events_append _ [_], hu.events hk]
      exact congrArg _ (List.append_nil _).symm

/-- A scan fails with the fault of the one block that failed. -/
theorem Scan.raised_eq {index : Nat} {r : Result W T TabRef}
    (hc : Scan a h ds index tab s p ms r) : raised ms = faults r.1 := by
  induction hc with
  | ended hi => rfl
  | stopped hb hs => rfl
  | disabled hb hs he hc ih => exact ih
  | leftOut hb hs he hk hc ih => exact ih
  | @broke index b tab s p ms s' p' e hb hs he hk hu =>
    rw [raised_unit (hu.inside hk).inner]
    cases e <;> rfl
  | ran hb hs he hk hu hc ih =>
    rw [raised_unit (hu.inside hk).inner]
    exact ih

/-! ## A whole run -/

theorem Opened.account {r : Result W T TabRef} (hc : Opened a h ds tab s p ms r) :
    Scanned a 0 (p.reporting (Run.openingStatus a p.reached) s.now) ms r.2.2 :=
  Scan.account hc

theorem Flow.opened {r : Result W T RunStatus} (hc : Flow a h ds tab s p ms r) :
    ∃ ms₀ r₀ last, ms = ⟨.report .opening (Run.openingStatus a p.reached), s, p⟩ :: ms₀ ++ last ∧
      Opened a h ds tab s p ms₀ r₀ ∧
      (last = [] ∨ ∃ st s' p', last = [⟨.report .closing st, s', p'⟩]) := by
  cases hc with
  | completed hc => exact ⟨_, _, _, rfl, hc, .inr ⟨_, _, _, rfl⟩⟩
  | failed hc => exact ⟨_, _, _, rfl, hc, .inr ⟨_, _, _, rfl⟩⟩
  | lost he hc => exact ⟨_, _, [], (List.append_nil _).symm, hc, .inl rfl⟩

/-- What holds at the moments of a run between its first and its last report. -/
theorem Flow.sound {r : Result W T RunStatus} (hc : Flow a h ds tab s p ms r) :
    ∀ m ∈ ms, m.Sound a ∨ (∃ st, m.deed = .report .opening st ∧ m.scene = s) ∨
      ∃ st, m.deed = .report .closing st := by
  obtain ⟨ms, r, last, rfl, hc, hlast⟩ := hc.opened
  refine List.forall_mem_append.2 ⟨List.forall_mem_cons.2 ⟨?_, fun m hm => ?_⟩, fun m hm => ?_⟩
  · exact .inr (.inl ⟨_, rfl, rfl⟩)
  · exact .inl (hc.account.sound m hm)
  · obtain rfl | ⟨st, s', p', rfl⟩ := hlast
    · cases hm
    · rw [List.mem_singleton] at hm
      subst hm
      exact .inr (.inr ⟨st, rfl⟩)

end Course

end BrowserFlow
