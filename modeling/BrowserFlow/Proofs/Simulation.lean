import BrowserFlow.Proofs.Attention

/-!
Runs over two hosts side by side. Where two hosts answer every question alike, and a relation
between their worlds and controls survives every answer, activities that are written alike end
alike, at the same moment and in the same state, and the relation holds again.

* `Host.Simulation`: one host simulates another along a relation.
* `Activity.Agree`: two results that differ in their scenes only.
* `Activity.Alike.simulated`: alike activities over such hosts have such results.
* `Run.flow_uniform`: runs are written alike over all hosts.
-/
namespace BrowserFlow
set_option autoImplicit false

variable {W W' T P α β : Type}

/-- A relation between what two hosts and their engines know at one moment. -/
abbrev Link (W W' : Type) : Type := W → Control → W' → Control → Prop

/-! ## Two hosts -/

inductive Reply.Related (R : Link W W') : Control → Reply W T α → Control → Reply W' T α → Prop
  | done {c c' w w' rs rs' result} : R w (c.receiveAll rs) w' (c'.receiveAll rs') →
      Related R c (.done w rs result) c' (.done w' rs' result)
  | sleep {c c' w w' rs rs' d k k'} : R w (c.receiveAll rs) w' (c'.receiveAll rs') →
      (∀ t, Related R (c.receiveAll rs) (k t) (c'.receiveAll rs') (k' t)) →
      Related R c (.sleep w rs d k) c' (.sleep w' rs' d k')

structure Host.Simulation (h : Host W T) (h' : Host W' T) (R : Link W W') : Prop where
  asked : ∀ {α} (q : Host.Question α) (t : T) {w c w' c'}, R w c w' c' →
    Reply.Related R c (q.ask h t w) c' (q.ask h' t w')
  arrivals : ∀ (t : T) {w c w' c'}, R w c w' c' →
    R (h.arrivals t w).1 (c.receiveAll (h.arrivals t w).2)
      (h'.arrivals t w').1 (c'.receiveAll (h'.arrivals t w').2)
  stopped : ∀ {w c w' c'}, R w c w' c' → c.stopped = c'.stopped
  /-- A receiver of reports asks both engines to stop. -/
  stop : ∀ {w c w' c'}, R w c w' c' → R w (c.receive .stop) w' (c'.receive .stop)

structure Scene.Linked (R : Link W W') (s : Scene W T) (s' : Scene W' T) : Prop where
  now : s.now = s'.now
  link : R s.world s.control s'.world s'.control

structure Activity.Agree (R : Link W W') (r : Outcome α × Scene W T × P)
    (r' : Outcome α × Scene W' T × P) : Prop where
  outcome : r.1 = r'.1
  scene : r.2.1.Linked R r'.2.1
  state : r.2.2 = r'.2.2

/-! ## Activities over two hosts -/

namespace Activity

variable {h : Host W T} {h' : Host W' T} {R : Link W W'} {ds : List T} {s : Scene W T}
  {s' : Scene W' T} {p : P}

theorem Agree.split {r : Outcome α × Scene W T × P} {r' : Outcome α × Scene W' T × P}
    (hr : Agree R r r') :
    ∃ o s₁ s₁' p₁, r = (o, s₁, p₁) ∧ r' = (o, s₁', p₁) ∧ s₁.Linked R s₁' := by
  obtain ⟨o, s₁, p₁⟩ := r
  obtain ⟨o', s₁', p₁'⟩ := r'
  obtain ⟨rfl, hl, rfl⟩ := hr
  exact ⟨o, s₁, s₁', p₁, rfl, rfl, hl⟩

theorem Agree.bind {x : Activity W T P α} {x' : Activity W' T P α} {f : α → Activity W T P β}
    {f' : α → Activity W' T P β} (hx : Agree R (x h ds s p) (x' h' ds s' p))
    (hf : ∀ a s₁ s₁' p₁, s₁.Linked R s₁' → Agree R (f a h ds s₁ p₁) (f' a h' ds s₁' p₁)) :
    Agree R ((x >>= f) h ds s p) ((x' >>= f') h' ds s' p) := by
  obtain ⟨o, s₁, s₁', p₁, hr, hr', hl⟩ := hx.split
  obtain ⟨a, rfl⟩ | ⟨e, rfl⟩ := o.done_or_halt
  · rw [bind_done hr, bind_done hr']
    exact hf a s₁ s₁' p₁ hl
  · rw [bind_halt hr, bind_halt hr']
    exact ⟨rfl, hl, rfl⟩

theorem Agree.attempt {x : Activity W T P α} {x' : Activity W' T P α}
    (hx : Agree R (x h ds s p) (x' h' ds s' p)) :
    Agree R (x.attempt h ds s p) (x'.attempt h' ds s' p) := by
  obtain ⟨o, s₁, s₁', p₁, hr, hr', hl⟩ := hx.split
  cases o with
  | done a => rw [attempt_done hr, attempt_done hr']; exact ⟨rfl, hl, rfl⟩
  | failed f => rw [attempt_failed hr, attempt_failed hr']; exact ⟨rfl, hl, rfl⟩
  | expired k => rw [attempt_expired hr, attempt_expired hr']; exact ⟨rfl, hl, rfl⟩
  | endless => rw [attempt_endless hr, attempt_endless hr']; exact ⟨rfl, hl, rfl⟩

theorem yielded_linked (hs : h.Simulation h' R) (hl : s.Linked R s') :
    (yielded h s).Linked R (yielded h' s') := by
  have harrive := hs.arrivals s.now hl.link
  refine ⟨hl.now, ?_⟩
  unfold yielded
  rw [← hl.now]
  exact harrive

variable [Clock T]

theorem Agree.follow {c : Control} {c' : Control} {r : Reply W T α} {r' : Reply W' T α}
    (hr : Reply.Related R c r c' r') (ds : List T) (w : W) (w' : W') (t : T) (p : P) :
    Agree R (Activity.follow ds p r ⟨w, t, c⟩) (Activity.follow ds p r' ⟨w', t, c'⟩) := by
  induction hr generalizing w w' t with
  | @done c c' w₁ w₁' rs rs' result hR =>
    cases result with
    | ok a => exact ⟨rfl, ⟨rfl, hR⟩, rfl⟩
    | error f => exact ⟨rfl, ⟨rfl, hR⟩, rfl⟩
  | @sleep c c' w₁ w₁' rs rs' d k k' hR hk ih =>
    simp only [Activity.follow]
    cases wake ds t d with
    | ok t' => exact ih t' w₁ w₁' t'
    | error e => exact ⟨rfl, ⟨rfl, hR⟩, rfl⟩

theorem Agree.sleep (hs : h.Simulation h' R) (hl : s.Linked R s') (d : T) :
    Agree R (Activity.sleep d h ds s p) (Activity.sleep d h' ds s' p) := by
  have hy := yielded_linked hs hl
  have hx : Agree R ((Activity.yield : Activity W T P Unit) h ds s p)
      ((Activity.yield : Activity W' T P Unit) h' ds s' p) := ⟨rfl, hy, rfl⟩
  refine Agree.bind hx fun _ s₁ s₁' p₁ hl₁ => ?_
  rw [← hl₁.now]
  cases wake ds s₁.now d with
  | ok t => exact ⟨rfl, ⟨rfl, hl₁.link⟩, rfl⟩
  | error e => exact ⟨rfl, ⟨rfl, hl₁.link⟩, rfl⟩

theorem Agree.within {x : Activity W T P α} {x' : Activity W' T P α} {seconds : Float}
    {late : Fault} (hs : h.Simulation h' R) (hl : s.Linked R s')
    (hx : ∀ inner s s', s.Linked R s' → Agree R (x h inner s p) (x' h' inner s' p)) :
    Agree R (Activity.within seconds late x h ds s p)
      (Activity.within seconds late x' h' ds s' p) := by
  have hy := yielded_linked hs hl
  have hb : budget? seconds ds (yielded h s).now = budget? seconds ds (yielded h' s').now := by
    rw [hy.now]
  cases hb' : budget? seconds ds (yielded h' s').now with
  | none =>
    rw [within_of_none (hb.trans hb'), within_of_none hb']
    exact ⟨rfl, hy, rfl⟩
  | some inner =>
    rw [within_of_some (hb.trans hb'), within_of_some hb']
    obtain ⟨ho, hl', hp⟩ := hx inner _ _ hy
    exact ⟨congrArg (capped ds.length late) ho, hl', hp⟩

/-- Activities that are written alike do the same over hosts of which one simulates the other. -/
theorem Alike.simulated {l : Prop} {x : Activity W T P α} {x' : Activity W' T P α}
    (hx : Alike l x x') (hs : h.Simulation h' R) (hl : s.Linked R s') :
    Agree R (x h ds s p) (x' h' ds s' p) := by
  induction hx generalizing ds s s' with
  | pure a => exact ⟨rfl, hl, rfl⟩
  | fail f => exact ⟨rfl, hl, rfl⟩
  | forever => exact ⟨rfl, hl, rfl⟩
  | get => exact ⟨rfl, hl, rfl⟩
  | modify f => exact ⟨rfl, hl, rfl⟩
  | now => exact ⟨congrArg Outcome.done hl.now, hl, rfl⟩
  | yield => exact ⟨rfl, yielded_linked hs hl, rfl⟩
  | sleep d => exact .sleep hs hl d
  | call q =>
    obtain ⟨w, t, c⟩ := s
    obtain ⟨w', t', c'⟩ := s'
    obtain ⟨rfl, hR⟩ := hl
    exact .follow (hs.asked q t hR) ds w w' t p
  | bind _ _ ihx ihf => exact .bind (ihx hl) fun a _ _ _ hl₁ => ihf a hl₁
  | attempt _ ih => exact .attempt (ih hl)
  | @ensuring P α x x' f _ ih =>
    have hx : Agree R (x h ds s p) (x' h' ds s' p) := ih hl
    exact ⟨hx.outcome, hx.scene, congrArg f hx.state⟩
  | @lift P α x x' _ ih =>
    have hx : Agree R (x h ds s ()) (x' h' ds s' ()) := ih hl
    exact ⟨hx.outcome, hx.scene, rfl⟩
  | within seconds late _ ih => exact .within hs hl fun _ _ _ hl₁ => ih hl₁
  | stopped _ => exact ⟨congrArg Outcome.done (hs.stopped hl.link), hl, rfl⟩
  | stop _ => exact ⟨rfl, ⟨hl.now, hs.stop hl.link⟩, rfl⟩

end Activity

/-! ## Runs over two hosts -/

/-- Readings that are alike stay so when they listen, if that is allowed. -/
theorem Activity.Alike.attentive [Clock T] (pollMs : Int) :
    Attentive pollMs
      fun P α (x : Activity W T P α) (x' : Activity W' T P α) => Alike True x x' where
  toComposed := Alike.composed True pollMs
  stopped := .stopped trivial
  stop := .stop trivial
  ensuring := .ensuring

theorem Run.flow_uniform [Clock T] (a : Assignment) (tab : TabRef) :
    Activity.Uniform True fun W => (flow a tab : Run W T RunStatus) :=
  fun _ _ => (Activity.Alike.attentive _).flow tab

end BrowserFlow
