import BrowserFlow.Proofs.Course

/-!
What every step of a run keeps holds along its whole course. A relation between states is steady
when each single step goes from a state to a related one; `Course.Scan.along` carries it from the
steps to the moments of a scan, in their order.
-/
namespace BrowserFlow
set_option autoImplicit false

variable {W T : Type} [Clock T]

abbrev Stage (W T : Type) : Type := Scene W T × Progress T

omit [Clock T] in
def Moment.stage (m : Moment W T) : Stage W T := (m.scene, m.progress)

namespace Course

/-- Moments between two states: each state is related to the later ones. -/
structure Along (R : Stage W T → Stage W T → Prop) (σ : Stage W T) (ms : List (Moment W T))
    (τ : Stage W T) : Prop where
  ends : R σ τ
  first : ∀ m ∈ ms, R σ m.stage
  last : ∀ m ∈ ms, R m.stage τ
  pairs : ms.Pairwise fun m m' => R m.stage m'.stage

/-- A relation that each single step of a run keeps. -/
structure Steady (a : Assignment) (h : Host W T) (R : Stage W T → Stage W T → Prop) : Prop where
  refl : ∀ σ, R σ σ
  trans : ∀ {σ τ υ}, R σ τ → R τ υ → R σ υ
  block : ∀ b tab ds s p, R (s, p) (Run.block a b tab h ds s p).2
  setup : ∀ {b index tab prep}, Repeater.setup? a b index tab = some prep →
    ∀ ds s p, R (s, p) (prep h ds s p).2
  yielded : ∀ s p, R (s, p) (Activity.yielded h s, p)
  report : ∀ status s p, R (s, p) (Run.heard a status s, p.reporting status s.now)
  bound : ∀ (ρ : Repeater.Rounds) n s p, R (s, p) (s, ρ.bound n p)
  settle : ∀ s p, R (s, p) (s, p.settled)
  skip : ∀ s p, R (s, p) (s, { p with skips := p.skips - 1 })
  reach : ∀ index s p, R (s, p) (s, p.reaching index)

variable {a : Assignment} {h : Host W T} {R : Stage W T → Stage W T → Prop}
  {σ τ υ : Stage W T} {ms ms' : List (Moment W T)}

namespace Along

omit [Clock T] in
theorem nil (hR : R σ τ) : Along R σ [] τ where
  ends := hR
  first _ hm := absurd hm List.not_mem_nil
  last _ hm := absurd hm List.not_mem_nil
  pairs := .nil

theorem after (hR : Steady a h R) (hσ : R σ τ) (hm : Along R τ ms υ) : Along R σ ms υ where
  ends := hR.trans hσ hm.ends
  first m h := hR.trans hσ (hm.first m h)
  last := hm.last
  pairs := hm.pairs

theorem cons (hR : Steady a h R) {m : Moment W T} (hσ : R σ m.stage)
    (hm : Along R m.stage ms τ) : Along R σ (m :: ms) τ where
  ends := hR.trans hσ hm.ends
  first := by
    rintro m' (_ | ⟨_, hm'⟩)
    · exact hσ
    · exact hR.trans hσ (hm.first m' hm')
  last := by
    rintro m' (_ | ⟨_, hm'⟩)
    · exact hm.ends
    · exact hm.last m' hm'
  pairs := List.pairwise_cons.2 ⟨hm.first, hm.pairs⟩

theorem append (hR : Steady a h R) (hm : Along R σ ms τ) (hm' : Along R τ ms' υ) :
    Along R σ (ms ++ ms') υ := by
  induction ms generalizing σ with
  | nil => exact after hR hm.ends hm'
  | cons m ms ih =>
    obtain ⟨hfirst, hpairs⟩ := List.pairwise_cons.1 hm.pairs
    refine cons hR (hm.first m (by simp)) (ih ⟨hm.last m (by simp), hfirst, ?_, hpairs⟩)
    exact fun m' hm' => hm.last m' (by simp [hm'])

end Along

/-! ## From the steps to the course -/

variable {ds : List T} {tab : TabRef} {s : Scene W T} {p : Progress T}

theorem Blocks.along (hR : Steady a h R) {n : Nat} {f : Block → Block} {bs : List Block}
    {r : Result W T TabRef} (hc : Blocks a h n f ds bs tab s p ms r) : Along R (s, p) ms r.2 := by
  induction hc with
  | nil => exact .nil (hR.refl _)
  | stopped hs => exact .nil (hR.refl _)
  | disabled hs hb hc ih => exact ih
  | leftOut hs hb hk hc ih => exact .cons hR (hR.refl _) (.after hR (hR.skip _ _) ih)
  | broke hs hb hk hr =>
    have hstep := hr ▸ hR.block _ _ ds _ _
    exact .cons hR (hR.refl _) (.cons hR hstep (.nil (hR.refl _)))
  | ran hs hb hk hr hc ih =>
    have hstep := hr ▸ hR.block _ _ ds _ _
    exact .cons hR (hR.refl _) (.cons hR hstep ih)

theorem Pass.along (hR : Steady a h R) {ρ : Repeater.Rounds} {body : List Block} {n : Nat}
    {r : Result W T TabRef} (hc : Pass a h ρ body ds n tab s p ms r) :
    Along R (s, p) (ρ.head a n s p ++ ms) r.2 :=
  .cons hR (hR.bound ρ n s p) (.cons hR (hR.report _ _ _) (Blocks.along hR hc))

theorem Passes.along (hR : Steady a h R) {ρ : Repeater.Rounds} {body : List Block}
    {done left : Nat} {r : Result W T (TabRef × Nat)}
    (hc : Passes a h ρ body ds done left tab s p ms r) : Along R (s, p) ms r.2 := by
  induction hc with
  | ended => exact .nil (hR.refl _)
  | stopped hs => exact .nil (hR.refl _)
  | broke hs hp =>
    exact .append hR (hp.along hR) (.cons hR (hR.settle _ _) (.nil (hR.refl _)))
  | cutShort hs hp hs' =>
    exact .append hR (hp.along hR) (.cons hR (hR.settle _ _) (.nil (hR.refl _)))
  | next hs hp hs' hc ih =>
    exact .append hR (hp.along hR) (.cons hR (hR.settle _ _) ih)

theorem Repeater.along (hR : Steady a h R) {b : Block} {index : Nat} {t : TabRef}
    {prep : Run W T Repeater.Setup} (hp : Repeater.setup? a b index t = some prep)
    {r : Result W T RepeaterResult} (hc : Repeater a h prep ds tab s p ms r) :
    Along R (s, p) ms r.2 := by
  cases hc with
  | unready hu =>
    have hstep := hR.setup hp ds s p
    rw [hu] at hstep
    exact .nil hstep
  | ready hu hc =>
    have hstep := hR.setup hp ds s p
    rw [hu] at hstep
    exact .after hR hstep (hc.along hR)

theorem Unit.along (hR : Steady a h R) {index : Nat} {b : Block}
    {r : Result W T (Nat × TabRef)} (hc : Unit a h ds index b tab s p ms r) :
    Along R (s, p) ms r.2 := by
  cases hc with
  | late hb => exact .nil (hR.yielded s p)
  | single hk hb hr =>
    subst hr
    exact .nil (hR.trans (hR.yielded s p) (hR.block ..))
  | repeated hp hb hc => exact .after hR (hR.yielded s p) (hc.along hR hp)

theorem Started.along (hR : Steady a h R) {index : Nat} {b : Block}
    {r : Result W T (Nat × TabRef)} (hc : Started a h ds index b tab s p ms r) :
    Along R (s, p) (Run.unitHead a index b tab s p ++ ms) r.2 :=
  .cons hR (hR.refl _) (.cons hR (hR.reach index s p)
    (.cons hR (hR.report _ _ _) (Unit.along hR hc)))

theorem Scan.along (hR : Steady a h R) {index : Nat} {r : Result W T TabRef}
    (hc : Scan a h ds index tab s p ms r) : Along R (s, p) ms r.2 := by
  induction hc with
  | ended hi => exact .nil (hR.refl _)
  | stopped hb hs => exact .nil (hR.refl _)
  | disabled hb hs he hc ih => exact ih
  | leftOut hb hs he hk hc ih =>
    exact .cons hR (hR.refl _) (.cons hR (hR.reach _ _ _) (.after hR (hR.skip _ _) ih))
  | broke hb hs he hk hu =>
    exact .append hR (hu.along hR) (.cons hR (hR.refl _) (.nil (hR.refl _)))
  | ran hb hs he hk hu hc ih =>
    exact .append hR (hu.along hR) (.cons hR (hR.refl _) ih)

theorem Flow.along (hR : Steady a h R) (hcompleting : ∀ s p, R (s, p) (s, p.completing a))
    {r : Result W T RunStatus} (hc : Flow a h ds tab s p ms r) : Along R (s, p) ms r.2 := by
  have opened {ms : List (Moment W T)} {r : Result W T TabRef} (hc : Opened a h ds tab s p ms r) :
      Along R (s, p) (⟨.report .opening (Run.openingStatus a p.reached), s, p⟩ :: ms) r.2 :=
    .cons hR (hR.refl _) (.after hR (hR.report _ _ _) (Scan.along hR hc))
  cases hc with
  | completed hc =>
    exact .append hR (opened hc) (.cons hR (hcompleting _ _) (.nil (hR.report _ _ _)))
  | failed hc => exact .append hR (opened hc) (.cons hR (hR.refl _) (.nil (hR.report _ _ _)))
  | lost he hc => exact opened hc

end Course

end BrowserFlow
