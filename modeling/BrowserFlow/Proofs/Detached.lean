import BrowserFlow.Proofs.Uniform

/-!
Detached activities: what they do depends on the host, the deadlines, the world, the moment and
their own state, never on requests to the engine. Requests that come in meanwhile are only kept.
Activities that do not listen are detached, so a stop reaches a run between blocks and not inside
one.
-/
namespace BrowserFlow
set_option autoImplicit false

variable {W T P α β : Type}

namespace Control

theorem receiveAll_append (c : Control) (rs rs' : List Request) :
    c.receiveAll (rs ++ rs') = (c.receiveAll rs).receiveAll rs' := List.foldl_append

@[simp] theorem receive_active (c : Control) (r : Request) : (c.receive r).active = c.active := by
  cases r with
  | stop => simp only [receive]; split <;> rfl
  | run flow => simp only [receive]; split <;> simp_all

theorem receive_stopped (c : Control) (r : Request) (hc : c.stopped = true) :
    (c.receive r).stopped = true := by
  cases r with
  | stop => simp only [receive]; split <;> simp [hc]
  | run flow => simp only [receive]; split <;> simp [hc]

@[simp] theorem receiveAll_active (c : Control) (rs : List Request) :
    (c.receiveAll rs).active = c.active := by
  induction rs generalizing c with
  | nil => rfl
  | cons r rs ih => exact (ih (c.receive r)).trans (c.receive_active r)

theorem receiveAll_stopped (c : Control) (rs : List Request) (hc : c.stopped = true) :
    (c.receiveAll rs).stopped = true := by
  induction rs generalizing c with
  | nil => exact hc
  | cons r rs ih => exact ih (c.receive r) (c.receive_stopped r hc)

end Control

namespace Activity

/-- An activity that does the same whatever was asked of the engine. It ends by a deadline only
when that is one of an enclosing scope. -/
structure Detached (x : Activity W T P α) : Prop where
  runs : ∀ (h : Host W T) (ds : List T) (w : W) (t : T) (p : P),
    ∃ (o : Outcome α) (w' : W) (t' : T) (p' : P) (rs : List Request),
      (∀ k, o = .expired k → k < ds.length) ∧
      ∀ c : Control, x h ds ⟨w, t, c⟩ p = (o, ⟨w', t', c.receiveAll rs⟩, p')

namespace Detached

theorem lt_of_expired {x : Activity W T P α} (hx : Detached x) {h : Host W T} {ds : List T}
    {s s' : Scene W T} {p p' : P} {k : Nat} (hr : x h ds s p = (.expired k, s', p')) :
    k < ds.length := by
  obtain ⟨o, w', t', q, rs, hk, hc⟩ := hx.runs h ds s.world s.now p
  have ho := congrArg Prod.fst ((hc s.control).symm.trans hr)
  exact hk k ho

/-! ## Single deeds -/

protected theorem pure (a : α) : Detached (Pure.pure a : Activity W T P α) :=
  ⟨fun _ _ w t p => ⟨.done a, w, t, p, [], nofun, fun _ => rfl⟩⟩

theorem fail (f : Fault) : Detached (Activity.fail f : Activity W T P α) :=
  ⟨fun _ _ w t p => ⟨.failed f, w, t, p, [], nofun, fun _ => rfl⟩⟩

theorem forever : Detached (Activity.forever : Activity W T P α) :=
  ⟨fun _ _ w t p => ⟨.endless, w, t, p, [], nofun, fun _ => rfl⟩⟩

theorem get : Detached (Activity.get : Activity W T P P) :=
  ⟨fun _ _ w t p => ⟨.done p, w, t, p, [], nofun, fun _ => rfl⟩⟩

theorem modify (f : P → P) : Detached (Activity.modify f : Activity W T P Unit) :=
  ⟨fun _ _ w t p => ⟨.done (), w, t, f p, [], nofun, fun _ => rfl⟩⟩

theorem now : Detached (Activity.now : Activity W T P T) :=
  ⟨fun _ _ w t p => ⟨.done t, w, t, p, [], nofun, fun _ => rfl⟩⟩

theorem yield : Detached (Activity.yield : Activity W T P Unit) :=
  ⟨fun h _ w t p => ⟨.done (), (h.arrivals t w).1, t, p, (h.arrivals t w).2, nofun, fun _ => rfl⟩⟩

/-! ## Ways to put activities together -/

theorem bind {x : Activity W T P α} {f : α → Activity W T P β} (hx : Detached x)
    (hf : ∀ a, Detached (f a)) : Detached (x >>= f) := by
  refine ⟨fun h ds w t p => ?_⟩
  obtain ⟨o, w', t', p', rs, hk, hc⟩ := hx.runs h ds w t p
  obtain ⟨a, rfl⟩ | ⟨e, rfl⟩ := o.done_or_halt
  · obtain ⟨o', w'', t'', p'', rs', hk', hc'⟩ := (hf a).runs h ds w' t' p'
    refine ⟨o', w'', t'', p'', rs ++ rs', hk', fun c => ?_⟩
    rw [bind_done (hc c), hc', Control.receiveAll_append]
  · refine ⟨e.outcome, w', t', p', rs, fun k hek => ?_, fun c => bind_halt (hc c)⟩
    exact hk k (by rw [Halt.outcome_eq_expired] at hek ⊢; exact hek)

theorem attempt {x : Activity W T P α} (hx : Detached x) : Detached x.attempt := by
  refine ⟨fun h ds w t p => ?_⟩
  obtain ⟨o, w', t', p', rs, hk, hc⟩ := hx.runs h ds w t p
  cases o with
  | done a => exact ⟨.done (.ok a), w', t', p', rs, nofun, fun c => attempt_done (hc c)⟩
  | failed f => exact ⟨.done (.error f), w', t', p', rs, nofun, fun c => attempt_failed (hc c)⟩
  | expired k =>
    refine ⟨.expired k, w', t', p', rs, fun j hj => hk j ?_, fun c => attempt_expired (hc c)⟩
    injection hj with hj
    rw [hj]
  | endless => exact ⟨.endless, w', t', p', rs, nofun, fun c => attempt_endless (hc c)⟩

theorem lift {x : Errand W T α} (hx : Detached x) :
    Detached (x.lift : Activity W T P α) := by
  refine ⟨fun h ds w t p => ?_⟩
  obtain ⟨o, w', t', _, rs, hk, hc⟩ := hx.runs h ds w t ()
  exact ⟨o, w', t', p, rs, hk, fun c => by rw [lift_apply, hc]⟩

theorem ensuring {x : Activity W T P α} (hx : Detached x) (f : P → P) :
    Detached (x.ensuring f) := by
  refine ⟨fun h ds w t p => ?_⟩
  obtain ⟨o, w', t', p', rs, hk, hc⟩ := hx.runs h ds w t p
  exact ⟨o, w', t', f p', rs, hk, fun c => by rw [ensuring_apply, hc]⟩

/-! ## Time -/

variable [Clock T]

theorem earliest_lt {ds : List T} {depth k : Nat} {d : T}
    (he : earliest depth ds = some (k, d)) : k < depth + ds.length := by
  induction ds generalizing depth k d with
  | nil => cases he
  | cons e ds ih =>
    simp only [earliest] at he
    split at he
    · rename_i j e' hj
      have hlt := ih hj
      split at he <;> cases he <;> simp only [List.length_cons] <;> omega
    · cases he
      simp only [List.length_cons]
      omega

theorem wake_lt {ds : List T} {t d e : T} {k : Nat} (hw : wake ds t d = .error (k, e)) :
    k < ds.length := by
  unfold wake at hw
  split at hw
  · cases hw
  · split at hw
    · rename_i j e' hj
      have hlt := earliest_lt hj
      dsimp only at hw
      split at hw
      · cases hw
        omega
      · cases hw
    · cases hw

theorem follow (ds : List T) (p : P) (r : Reply W T α) (w : W) (t : T) :
    ∃ (o : Outcome α) (w' : W) (t' : T) (rs : List Request),
      (∀ k, o = .expired k → k < ds.length) ∧
      ∀ c : Control, Activity.follow ds p r ⟨w, t, c⟩ = (o, ⟨w', t', c.receiveAll rs⟩, p) := by
  induction r generalizing w t with
  | done world requests result =>
    cases result with
    | ok a => exact ⟨.done a, world, t, requests, nofun, fun _ => rfl⟩
    | error f => exact ⟨.failed f, world, t, requests, nofun, fun _ => rfl⟩
  | sleep world requests duration resume ih =>
    cases hw : wake ds t duration with
    | ok t' =>
      obtain ⟨o, w', t'', rs, hk, hc⟩ := ih t' world t'
      refine ⟨o, w', t'', requests ++ rs, hk, fun c => ?_⟩
      simp only [Activity.follow, hw, hc, Control.receiveAll_append]
    | error e =>
      refine ⟨.expired e.1, world, e.2, requests, fun k hk => ?_, fun c => ?_⟩
      · injection hk with hk
        exact hk ▸ wake_lt hw
      · simp only [Activity.follow, hw]

theorem call (f : Host W T → Call W T α) : Detached (Activity.call f : Activity W T P α) := by
  refine ⟨fun h ds w t p => ?_⟩
  obtain ⟨o, w', t', rs, hk, hc⟩ := follow ds p (f h t w) w t
  exact ⟨o, w', t', p, rs, hk, hc⟩

theorem sleep (d : T) : Detached (Activity.sleep d : Activity W T P Unit) := by
  refine bind yield fun _ => ⟨fun h ds w t p => ?_⟩
  cases hw : wake ds t d with
  | ok t' => exact ⟨.done (), w, t', p, [], nofun, fun c => by simp only [hw]; rfl⟩
  | error e =>
    refine ⟨.expired e.1, w, e.2, p, [], fun k hk => ?_, fun c => by simp only [hw]; rfl⟩
    injection hk with hk
    exact hk ▸ wake_lt hw

theorem within {x : Activity W T P α} (hx : Detached x) (seconds : Float) (late : Fault) :
    Detached (Activity.within seconds late x) := by
  refine ⟨fun h ds w t p => ?_⟩
  -- the requests of the pause come first, whatever the scope does afterwards
  have pause : ∀ c : Control, yielded h ⟨w, t, c⟩ =
      ⟨(h.arrivals t w).1, t, c.receiveAll (h.arrivals t w).2⟩ := fun _ => rfl
  cases hb : budget? seconds ds t with
  | none =>
    refine ⟨.failed late, (h.arrivals t w).1, t, p, (h.arrivals t w).2, nofun, fun c => ?_⟩
    rw [within_of_none hb, pause]
  | some inner =>
    obtain ⟨o, w', t', p', rs, hk, hc⟩ := hx.runs h inner (h.arrivals t w).1 t p
    refine ⟨capped ds.length late o, w', t', p', (h.arrivals t w).2 ++ rs, ?_, fun c => ?_⟩
    · intro k hek
      have hle : inner.length ≤ ds.length + 1 := budget?_length_le hb
      obtain ⟨rfl, hne⟩ := capped_eq_expired.1 hek
      have hlt := hk k rfl
      omega
    · rw [within_of_some hb, pause, hc, Control.receiveAll_append]

end Detached

theorem Alike.detached [Clock T] {W' : Type} {x : Activity W T P α} {x' : Activity W' T P α}
    (hx : Alike False x x') : Detached x := by
  induction hx with
  | pure a => exact .pure a
  | fail f => exact .fail f
  | forever => exact .forever
  | get => exact .get
  | modify f => exact .modify f
  | now => exact .now
  | yield => exact .yield
  | sleep d => exact .sleep d
  | call q => exact .call q.ask
  | bind _ _ ihx ihf => exact .bind ihx ihf
  | attempt _ ih => exact .attempt ih
  | ensuring f _ ih => exact .ensuring ih f
  | lift _ ih => exact .lift ih
  | within seconds late _ ih => exact .within ih seconds late
  | stopped hl => exact hl.elim
  | stop hl => exact hl.elim

end Activity

end BrowserFlow
