import BrowserFlow.Timed.Activity

/-!
Laws of activities: what each way of putting activities together does to the outcome, the scene
and the state. Later modules cite these and do not open the definitions again.
-/
namespace BrowserFlow
set_option autoImplicit false

variable {W T P α β : Type}

/-! ## Ends without a value -/

/-- How an activity ends when it gives no value. -/
inductive Halt where
  | failed (fault : Fault)
  | expired (depth : Nat)
  | endless
  deriving DecidableEq

/-- The same end, as the outcome of an activity for any kind of value. -/
def Halt.outcome : Halt → Outcome α
  | failed f => .failed f
  | expired k => .expired k
  | endless => .endless

namespace Outcome

def map (f : α → β) : Outcome α → Outcome β
  | .done a => .done (f a)
  | .failed e => .failed e
  | .expired k => .expired k
  | .endless => .endless

theorem map_map {γ : Type} (f : α → β) (g : β → γ) (o : Outcome α) :
    (o.map f).map g = o.map fun a => g (f a) := by
  cases o <;> rfl

theorem map_eq_done {f : α → β} {o : Outcome α} {b : β} :
    o.map f = .done b ↔ ∃ a, o = .done a ∧ f a = b := by
  cases o <;> simp [map]

theorem map_eq_expired {f : α → β} {o : Outcome α} {k : Nat} :
    o.map f = .expired k ↔ o = .expired k := by
  cases o <;> simp [map]

@[simp] theorem map_halt (f : α → β) (e : Halt) : (e.outcome : Outcome α).map f = e.outcome := by
  cases e <;> rfl

theorem done_or_halt (o : Outcome α) : (∃ a, o = .done a) ∨ ∃ e : Halt, o = e.outcome := by
  cases o with
  | done a => exact .inl ⟨a, rfl⟩
  | failed f => exact .inr ⟨.failed f, rfl⟩
  | expired k => exact .inr ⟨.expired k, rfl⟩
  | endless => exact .inr ⟨.endless, rfl⟩

end Outcome

@[simp] theorem Halt.outcome_ne_done (e : Halt) (a : α) : (e.outcome : Outcome α) ≠ .done a := by
  cases e <;> nofun

@[simp] theorem Halt.done_ne_outcome (e : Halt) (a : α) : (Outcome.done a) ≠ e.outcome :=
  (e.outcome_ne_done a).symm

theorem Halt.outcome_inj {e e' : Halt} (h : (e.outcome : Outcome α) = e'.outcome) : e = e' := by
  cases e <;> cases e' <;> simp_all [Halt.outcome]

@[simp] theorem Halt.outcome_eq_expired {e : Halt} {k : Nat} :
    (e.outcome : Outcome α) = .expired k ↔ e = .expired k := by
  cases e <;> simp [Halt.outcome]

namespace Activity

variable {h : Host W T} {ds : List T} {s s' : Scene W T} {p p' : P}

theorem ends (x : Activity W T P α) (h : Host W T) (ds : List T) (s : Scene W T) (p : P) :
    (∃ a s' p', x h ds s p = (.done a, s', p')) ∨
      ∃ (e : Halt) (s' : Scene W T) (p' : P), x h ds s p = (e.outcome, s', p') := by
  rcases hx : x h ds s p with ⟨o, s', p'⟩
  obtain ⟨a, rfl⟩ | ⟨e, rfl⟩ := o.done_or_halt
  · exact .inl ⟨a, s', p', rfl⟩
  · exact .inr ⟨e, s', p', rfl⟩

/-! ## Sequences -/

theorem bind_done {x : Activity W T P α} {f : α → Activity W T P β} {a : α}
    (hx : x h ds s p = (.done a, s', p')) : (x >>= f) h ds s p = f a h ds s' p' := by
  show Activity.bind x f h ds s p = _
  rw [Activity.bind, hx]

theorem bind_halt {x : Activity W T P α} {f : α → Activity W T P β} {e : Halt}
    (hx : x h ds s p = (e.outcome, s', p')) : (x >>= f) h ds s p = (e.outcome, s', p') := by
  show Activity.bind x f h ds s p = _
  cases e <;> simp only [Halt.outcome] at hx ⊢ <;> rw [Activity.bind, hx]

/-- Two activities in a row come to a result when the first one does and the second one then. -/
theorem bind_eq_done {x : Activity W T P α} {f : α → Activity W T P β} {b : β} :
    (x >>= f) h ds s p = (.done b, s', p') ↔
      ∃ a s₁ p₁, x h ds s p = (.done a, s₁, p₁) ∧ f a h ds s₁ p₁ = (.done b, s', p') := by
  obtain ⟨a, s₁, p₁, hx⟩ | ⟨e, s₁, p₁, hx⟩ := ends x h ds s p
  · rw [bind_done hx, hx]
    constructor
    · intro hf
      exact ⟨a, s₁, p₁, rfl, hf⟩
    · rintro ⟨a, s₁, p₁, ⟨⟩, hf⟩
      exact hf
  · rw [bind_halt hx, hx]
    constructor
    · intro he
      exact absurd (congrArg Prod.fst he) (e.outcome_ne_done _)
    · rintro ⟨a, s₁, p₁, he, -⟩
      exact absurd (congrArg Prod.fst he) (e.outcome_ne_done _)

/-- Two activities in a row fail when the first one does, or when the second one does after it. -/
theorem bind_eq_failed {x : Activity W T P α} {f : α → Activity W T P β} {e : Fault} :
    (x >>= f) h ds s p = (.failed e, s', p') ↔
      x h ds s p = (.failed e, s', p') ∨
        ∃ a s₁ p₁, x h ds s p = (.done a, s₁, p₁) ∧ f a h ds s₁ p₁ = (.failed e, s', p') := by
  obtain ⟨a, s₁, p₁, hx⟩ | ⟨e', s₁, p₁, hx⟩ := ends x h ds s p
  · rw [bind_done hx, hx]
    constructor
    · intro hf
      exact .inr ⟨a, s₁, p₁, rfl, hf⟩
    · rintro (he | ⟨a', s₂, p₂, he, hf⟩)
      · cases he
      · cases he
        exact hf
  · rw [bind_halt hx, hx]
    constructor
    · intro he
      cases e' <;> cases he
      exact .inl rfl
    · rintro (he | ⟨a, s₂, p₂, he, -⟩)
      · cases e' <;> cases he
        rfl
      · exact absurd (congrArg Prod.fst he) (e'.outcome_ne_done _)

theorem bind_pure_map {x : Activity W T P α} (g : α → β) :
    (x >>= fun a => pure (g a)) h ds s p = ((x h ds s p).1.map g, (x h ds s p).2) := by
  obtain ⟨a, s', p', hx⟩ | ⟨e, s', p', hx⟩ := ends x h ds s p
  · rw [bind_done hx, hx]
    rfl
  · rw [bind_halt hx, hx, Outcome.map_halt]

/-- Two sequences agree when their first parts agree and, wherever these give a value, the rests
agree from there on. -/
theorem bind_congr {x y : Activity W T P α} {f g : α → Activity W T P β}
    (hxy : x h ds s p = y h ds s p)
    (hfg : ∀ a s' p', x h ds s p = (.done a, s', p') → f a h ds s' p' = g a h ds s' p') :
    (x >>= f) h ds s p = (y >>= g) h ds s p := by
  obtain ⟨a, s', p', hx⟩ | ⟨e, s', p', hx⟩ := ends x h ds s p
  · rw [bind_done hx, bind_done (hxy.symm.trans hx), hfg a s' p' hx]
  · rw [bind_halt hx, bind_halt (hxy.symm.trans hx)]

/-! ## Single deeds -/

@[simp] theorem ofExcept_ok (a : α) : (ofExcept (.ok a) : Activity W T P α) = pure a := rfl

@[simp] theorem pure_bind (a : α) (f : α → Activity W T P β) : (pure a >>= f) = f a := rfl

@[simp] theorem get_bind (f : P → Activity W T P β) :
    ((get : Activity W T P P) >>= f) h ds s p = f p h ds s p := rfl

@[simp] theorem modify_bind (g : P → P) (f : Unit → Activity W T P β) :
    ((modify g : Activity W T P Unit) >>= f) h ds s p = f () h ds s (g p) := rfl

@[simp] theorem now_bind (f : T → Activity W T P β) :
    ((now : Activity W T P T) >>= f) h ds s p = f s.now h ds s p := rfl

@[simp] theorem stopped_bind (f : Bool → Activity W T P β) :
    ((stopped : Activity W T P Bool) >>= f) h ds s p = f s.control.stopped h ds s p := rfl

theorem bind_assoc {γ : Type} (x : Activity W T P α) (f : α → Activity W T P β)
    (g : β → Activity W T P γ) : (x >>= f) >>= g = x >>= fun a => f a >>= g := by
  funext h ds s p
  obtain ⟨a, s', p', hx⟩ | ⟨e, s', p', hx⟩ := ends x h ds s p
  · rw [bind_done hx]
    obtain ⟨b, s'', p'', hf⟩ | ⟨e, s'', p'', hf⟩ := ends (f a) h ds s' p'
    · rw [bind_done ((bind_done hx).trans hf), bind_done hf]
    · rw [bind_halt ((bind_done hx).trans hf), bind_halt hf]
  · rw [bind_halt hx, bind_halt (bind_halt hx)]

theorem ofExcept_map_bind {γ : Type} (e : Except Fault α) (g : α → β)
    (f : β → Activity W T P γ) : (ofExcept (e.map g) >>= f) = ofExcept e >>= fun a => f (g a) := by
  cases e <;> rfl

theorem ensuring_apply (x : Activity W T P α) (g : P → P) :
    x.ensuring g h ds s p = ((x h ds s p).1, (x h ds s p).2.1, g (x h ds s p).2.2) := rfl

theorem lift_apply (x : Errand W T α) :
    (x.lift : Activity W T P α) h ds s p = ((x h ds s ()).1, (x h ds s ()).2.1, p) := rfl

theorem lift_eq_done {x : Errand W T α} {a : α} :
    (x.lift : Activity W T P α) h ds s p = (.done a, s', p') ↔
      x h ds s () = (.done a, s', ()) ∧ p' = p := by
  rcases hx : x h ds s () with ⟨o, s₁, p₁⟩
  rw [lift_apply, hx]
  simp only [Prod.mk.injEq]
  constructor
  · rintro ⟨ho, hs, hp⟩
    exact ⟨⟨ho, hs, trivial⟩, hp.symm⟩
  · rintro ⟨⟨ho, hs, -⟩, hp⟩
    exact ⟨ho, hs, hp.symm⟩

theorem lift_eq_failed {x : Errand W T α} {f : Fault}
    (hx : (x.lift : Activity W T P α) h ds s p = (.failed f, s', p')) :
    x h ds s () = (.failed f, s', ()) := by
  rcases hr : x h ds s () with ⟨o, s₁, p₁⟩
  rw [lift_apply, hr] at hx
  cases hx
  rfl

theorem lift_bind (x : Errand W T α) (f : α → Errand W T β) :
    (lift (x >>= f) : Activity W T P β) = x.lift >>= fun a => (f a).lift := by
  funext h ds s p
  obtain ⟨a, s', ⟨⟩, hx⟩ | ⟨e, s', ⟨⟩, hx⟩ := ends x h ds s ()
  · have hlift : x.lift h ds s p = (.done a, s', p) := by rw [lift_apply, hx]
    rw [lift_apply, bind_done hx, bind_done hlift, lift_apply]
  · have hlift : x.lift h ds s p = (e.outcome, s', p) := by rw [lift_apply, hx]
    rw [lift_apply, bind_halt hx, bind_halt hlift]

theorem attempt_done {x : Activity W T P α} {a : α} (hx : x h ds s p = (.done a, s', p')) :
    x.attempt h ds s p = (.done (.ok a), s', p') := by
  rw [attempt, hx]

theorem attempt_failed {x : Activity W T P α} {f : Fault}
    (hx : x h ds s p = (.failed f, s', p')) :
    x.attempt h ds s p = (.done (.error f), s', p') := by
  rw [attempt, hx]

theorem attempt_expired {x : Activity W T P α} {k : Nat}
    (hx : x h ds s p = (.expired k, s', p')) : x.attempt h ds s p = (.expired k, s', p') := by
  rw [attempt, hx]

theorem attempt_endless {x : Activity W T P α} (hx : x h ds s p = (.endless, s', p')) :
    x.attempt h ds s p = (.endless, s', p') := by
  rw [attempt, hx]

/-! ## Changes of the state -/

/-- However the activity ends, its state has changed by `R`. -/
def Changes (R : P → P → Prop) (x : Activity W T P α) : Prop :=
  ∀ (h : Host W T) (ds : List T) (s : Scene W T) (p : P), R p (x h ds s p).2.2

namespace Changes

variable {R : P → P → Prop}

protected theorem pure (hR : ∀ p, R p p) (a : α) : Changes R (Pure.pure a : Activity W T P α) :=
  fun _ _ _ p => hR p

theorem fail (hR : ∀ p, R p p) (f : Fault) : Changes R (Activity.fail f : Activity W T P α) :=
  fun _ _ _ p => hR p

theorem ofExcept (hR : ∀ p, R p p) (e : Except Fault α) :
    Changes R (Activity.ofExcept e : Activity W T P α) := by
  cases e with
  | ok a => exact Changes.pure hR a
  | error f => exact fail hR f

theorem modify {f : P → P} (hf : ∀ p, R p (f p)) :
    Changes R (Activity.modify f : Activity W T P Unit) :=
  fun _ _ _ p => hf p

theorem lift (hR : ∀ p, R p p) (x : Errand W T α) :
    Changes R (x.lift : Activity W T P α) :=
  fun _ _ _ p => hR p

theorem bind (hR : ∀ p q r, R p q → R q r → R p r) {x : Activity W T P α}
    {f : α → Activity W T P β} (hx : Changes R x) (hf : ∀ a, Changes R (f a)) :
    Changes R (x >>= f) := by
  intro h ds s p
  have h₁ := hx h ds s p
  obtain ⟨a, s', p', hx'⟩ | ⟨e, s', p', hx'⟩ := ends x h ds s p
  · rw [hx'] at h₁
    rw [bind_done hx']
    exact hR _ _ _ h₁ (hf a h ds s' p')
  · rw [hx'] at h₁
    rw [bind_halt hx']
    exact h₁

theorem ite {c : Prop} [Decidable c] {x y : Activity W T P α} (hx : Changes R x)
    (hy : Changes R y) : Changes R (if c then x else y) := by
  split
  · exact hx
  · exact hy

end Changes

/-! ## Values -/

/-- Whatever value the activity gives, it satisfies `Q`. -/
def Gives (Q : α → Prop) (x : Activity W T P α) : Prop :=
  ∀ (h : Host W T) (ds : List T) (s s' : Scene W T) (p p' : P) (a : α),
    x h ds s p = (.done a, s', p') → Q a

namespace Gives

variable {Q : α → Prop}

protected theorem pure {a : α} (hQ : Q a) : Gives Q (Pure.pure a : Activity W T P α) := by
  intro h ds s s' p p' b hb
  cases hb
  exact hQ

theorem fail (f : Fault) : Gives Q (Activity.fail f : Activity W T P α) := by
  intro h ds s s' p p' b hb
  cases hb

theorem bind {x : Activity W T P β} {f : β → Activity W T P α} (hf : ∀ b, Gives Q (f b)) :
    Gives Q (x >>= f) := by
  intro h ds s s' p p' a ha
  obtain ⟨b, s₁, p₁, hx⟩ | ⟨e, s₁, p₁, hx⟩ := ends x h ds s p
  · rw [bind_done hx] at ha
    exact hf b h ds s₁ s' p₁ p' a ha
  · rw [bind_halt hx] at ha
    cases e <;> cases ha

theorem ofExcept_bind {e : Except Fault β} {f : β → Activity W T P α}
    (hf : ∀ b, e = .ok b → Gives Q (f b)) : Gives Q (Activity.ofExcept e >>= f) := by
  cases e with
  | ok b => exact hf b rfl
  | error e => exact fail e

theorem ite {c : Prop} [Decidable c] {x y : Activity W T P α} (hx : Gives Q x)
    (hy : Gives Q y) : Gives Q (if c then x else y) := by
  split
  · exact hx
  · exact hy

end Gives

/-! ## Budgets -/

/-- The scene after the requests were taken in that came while the engine was busy. -/
def yielded (h : Host W T) (s : Scene W T) : Scene W T :=
  { s with
    world := (h.arrivals s.now s.world).1
    control := s.control.receiveAll (h.arrivals s.now s.world).2 }

theorem yield_apply : (yield : Activity W T P Unit) h ds s p = (.done (), yielded h s, p) := rfl

variable [Clock T]

theorem sleep_apply (d : T) : (sleep d : Activity W T P Unit) h ds s p =
    match wake ds s.now d with
    | .ok t => (.done (), { yielded h s with now := t }, p)
    | .error (k, t) => (.expired k, { yielded h s with now := t }, p) := rfl

theorem wake_nil (t d : T) :
    wake [] t d = .ok (if Clock.le d Clock.zero then t else Clock.add t d) := by
  unfold wake
  split <;> rfl

/-- The deadlines inside a scope with a budget, none when the budget does not let it start. -/
def budget? (seconds : Float) (ds : List T) (now : T) : Option (List T) :=
  match Clock.ofSeconds (T := T) seconds with
  | none => some ds
  | some d => if Clock.le d Clock.zero then none else some (ds ++ [Clock.add now d])

theorem budget?_length_le {seconds : Float} {now : T} {inner : List T}
    (hb : budget? seconds ds now = some inner) : inner.length ≤ ds.length + 1 := by
  unfold budget? at hb
  split at hb
  · cases hb
    omega
  · split at hb
    · cases hb
    · cases hb
      simp

/-- How a scope ends, given how what it holds ended: its own deadline and a timeout of the host
are both the fault `late`. -/
def capped (depth : Nat) (late : Fault) : Outcome α → Outcome α
  | .failed f => if f.kind = .asyncTimeout then .failed late else .failed f
  | .expired k => if k = depth then .failed late else .expired k
  | o => o

theorem capped_eq_done {depth : Nat} {late : Fault} {o : Outcome α} {a : α} :
    capped depth late o = .done a ↔ o = .done a := by
  cases o <;> simp [capped] <;> split <;> simp

theorem capped_eq_expired {depth k : Nat} {late : Fault} {o : Outcome α} :
    capped depth late o = .expired k ↔ o = .expired k ∧ k ≠ depth := by
  cases o with
  | done a => simp [capped]
  | failed f => by_cases hf : f.kind = .asyncTimeout <;> simp [capped, hf]
  | expired j =>
    by_cases hj : j = depth
    · simp only [capped, hj, if_true, reduceCtorEq, Outcome.expired.injEq, false_iff, not_and]
      rintro rfl
      simp
    · simp only [capped, hj, if_false, Outcome.expired.injEq]
      constructor
      · rintro rfl
        exact ⟨rfl, hj⟩
      · rintro ⟨rfl, -⟩
        rfl
  | endless => simp [capped]

theorem capped_map (depth : Nat) (late : Fault) (f : α → β) (o : Outcome α) :
    (capped depth late o).map f = capped depth late (o.map f) := by
  cases o with
  | done a => rfl
  | failed e => by_cases he : e.kind = .asyncTimeout <;> simp [capped, Outcome.map, he]
  | expired k => by_cases hk : k = depth <;> simp [capped, Outcome.map, hk]
  | endless => rfl

/-- What a scope with a budget does once the waiting requests were taken in. -/
def scope (seconds : Float) (late : Fault) (x : Activity W T P α) : Activity W T P α :=
  fun h ds s p =>
    match budget? seconds ds s.now with
    | none => (.failed late, s, p)
    | some inner => (capped ds.length late (x h inner s p).1, (x h inner s p).2)

theorem within_apply (seconds : Float) (late : Fault) (x : Activity W T P α) :
    within seconds late x h ds s p = scope seconds late x h ds (yielded h s) p := by
  simp only [within, scope, budget?, bind, Activity.bind, yield_apply]
  cases Clock.ofSeconds (T := T) seconds with
  | none =>
    simp only [Option.any_none, Bool.false_eq_true, if_false]
    rcases x h ds (yielded h s) p with ⟨a | f | k | _, s', p'⟩
    · rfl
    · by_cases hf : f.kind = .asyncTimeout <;> simp [capped, hf]
    · by_cases hk : k = ds.length <;> simp [capped, hk]
    · rfl
  | some d =>
    by_cases hd : Clock.le d Clock.zero
    · simp [hd]
    · simp only [Option.any_some, hd, Bool.false_eq_true, if_false]
      rcases x h (ds ++ [Clock.add (yielded h s).now d]) (yielded h s) p with
        ⟨a | f | k | _, s', p'⟩
      · rfl
      · by_cases hf : f.kind = .asyncTimeout <;> simp [capped, hf]
      · by_cases hk : k = ds.length <;> simp [capped, hk]
      · rfl

theorem within_of_none {seconds : Float} {late : Fault} {x : Activity W T P α}
    (hb : budget? seconds ds (yielded h s).now = none) :
    within seconds late x h ds s p = (.failed late, yielded h s, p) := by
  rw [within_apply, scope, hb]

theorem within_of_some {seconds : Float} {late : Fault} {x : Activity W T P α} {inner : List T}
    (hb : budget? seconds ds (yielded h s).now = some inner) :
    within seconds late x h ds s p =
      (capped ds.length late (x h inner (yielded h s) p).1, (x h inner (yielded h s) p).2) := by
  rw [within_apply, scope, hb]

/-- A change of the value may be made inside a scope as well as outside. -/
theorem within_map (seconds : Float) (late : Fault) (x : Activity W T P α) (f : α → β) :
    (within seconds late x >>= fun a => pure (f a)) =
      within seconds late (x >>= fun a => pure (f a)) := by
  funext h ds s p
  rw [bind_pure_map]
  cases hb : budget? seconds ds (yielded h s).now with
  | none =>
    rw [within_of_none hb, within_of_none hb]
    rfl
  | some inner => rw [within_of_some hb, within_of_some hb, bind_pure_map, capped_map]

/-- A scope cuts off what it holds in this state: when its own deadline passes, or before it
starts. -/
def CutOff (seconds : Float) (x : Activity W T P α) (h : Host W T) (ds : List T) (s : Scene W T)
    (p : P) (s' : Scene W T) (p' : P) : Prop :=
  match budget? seconds ds (yielded h s).now with
  | none => s' = yielded h s ∧ p' = p
  | some inner => x h inner (yielded h s) p = (.expired ds.length, s', p')

/-- Then it fails in this state, and does nothing more. -/
theorem within_of_cutOff {seconds : Float} {x : Activity W T P α}
    (hc : CutOff seconds x h ds s p s' p') (late : Fault) :
    within seconds late x h ds s p = (.failed late, s', p') := by
  unfold CutOff at hc
  cases hb : budget? seconds ds (yielded h s).now with
  | none =>
    rw [hb] at hc
    obtain ⟨rfl, rfl⟩ := hc
    exact within_of_none hb
  | some inner =>
    rw [hb] at hc
    rw [within_of_some hb, hc, capped, if_pos rfl]

/-- Two scopes agree when what they hold does, whatever the deadlines inside are. -/
theorem within_bind_congr {γ : Type} {seconds : Float} {late : Fault} {x : Activity W T P α}
    {y : Activity W T P β} {f : α → γ} {g : β → γ}
    (hxy : ∀ inner s, (x >>= fun a => pure (f a)) h inner s p =
      (y >>= fun b => pure (g b)) h inner s p) :
    (within seconds late x >>= fun a => pure (f a)) h ds s p =
      (within seconds late y >>= fun b => pure (g b)) h ds s p := by
  simp only [bind_pure_map] at hxy ⊢
  cases hb : budget? seconds ds (yielded h s).now with
  | none =>
    rw [within_of_none hb, within_of_none hb]
    rfl
  | some inner =>
    obtain ⟨ho, hr⟩ := Prod.mk.inj (hxy inner (yielded h s))
    rw [within_of_some hb, within_of_some hb, capped_map, capped_map, ho, hr]

end Activity

end BrowserFlow
