import BrowserFlow.Proofs.Iteration
import BrowserFlow.Proofs.Timely
import Mathlib.Data.List.TakeWhile

/-!
Numbers in parameters. A value is read as an integer, or it gives way to a default; only a double
that is no number at all does neither. Loops and waits take what comes of it.

* `Parameter.Leads`: the integer at the front of a text.
* `Parameter.Reads`, `Parameter.Escapes`, `Parameter.Unreadable`: what can become of a value.
* `Parameter.numbers_fall_back`: what reading an integer gives, how often a loop runs, and how long
  a wait takes.
-/
namespace BrowserFlow
set_option autoImplicit false

namespace Parameter
open Text

/-! ## The integer at the front of a text -/

/-- The signs that a number may have. -/
inductive Sign : List Char → Int → Prop
  | none : Sign [] 1
  | plus : Sign ['+'] 1
  | minus : Sign ['-'] (-1)

/-- A text with an integer at its front: behind blanks and perhaps a sign all the digits that
follow, of which there is one at least. -/
inductive Leads : List Char → Int → Prop
  | intro {margin sign digits rest : List Char} {unit : Int} : (∀ c ∈ margin, isBlank c = true) →
      Sign sign unit → digits ≠ [] → (∀ c ∈ digits, isDigit c = true) →
      (∀ c ∈ rest.head?, isDigit c = false) →
      Leads (margin ++ (sign ++ (digits ++ rest))) (unit * digitsValue digits)

/-- The sign of a text, and what follows it. -/
def afterSign : List Char → Int × List Char
  | '-' :: cs => (-1, cs)
  | '+' :: cs => (1, cs)
  | cs => (1, cs)

theorem leadingInt?_eq (s : String) :
    leadingInt? s =
      let signed := afterSign (s.toList.dropWhile isBlank)
      let digits := signed.2.takeWhile isDigit
      if digits = [] then none else some (signed.1 * digitsValue digits) := by
  unfold leadingInt?
  split
  rename_i sign rest hmatch
  have hsigned : afterSign (s.toList.dropWhile isBlank) = (sign, rest) := hmatch
  simp only [hsigned]

theorem afterSign_split (cs : List Char) :
    ∃ sign, Sign sign (afterSign cs).1 ∧ cs = sign ++ (afterSign cs).2 := by
  unfold afterSign
  split
  · exact ⟨_, .minus, rfl⟩
  · exact ⟨_, .plus, rfl⟩
  · exact ⟨_, .none, rfl⟩

theorem afterSign_append {sign digits rest : List Char} {unit : Int} (hsign : Sign sign unit)
    (hne : digits ≠ []) (hdigits : ∀ c ∈ digits, isDigit c = true) :
    afterSign (sign ++ (digits ++ rest)) = (unit, digits ++ rest) := by
  cases hsign with
  | plus | minus => rfl
  | none =>
    obtain ⟨d, ds, rfl⟩ := List.exists_cons_of_ne_nil hne
    have hd : isDigit d = true := hdigits d List.mem_cons_self
    have hminus : d ≠ '-' := by
      rintro rfl
      exact absurd hd (by decide)
    have hplus : d ≠ '+' := by
      rintro rfl
      exact absurd hd (by decide)
    rw [List.nil_append, List.cons_append]
    unfold afterSign
    split <;> simp_all

/-- Neither a sign nor a digit is blank. -/
theorem dropWhile_unblank {sign digits rest : List Char} {unit : Int} (hsign : Sign sign unit)
    (hne : digits ≠ []) (hdigits : ∀ c ∈ digits, isDigit c = true) :
    (sign ++ (digits ++ rest)).dropWhile isBlank = sign ++ (digits ++ rest) := by
  cases hsign with
  | plus | minus => exact List.dropWhile_cons_of_neg (by decide)
  | none =>
    obtain ⟨d, ds, rfl⟩ := List.exists_cons_of_ne_nil hne
    have hd : isBlank d = false := isBlank_of_isDigit (hdigits d List.mem_cons_self)
    exact List.dropWhile_cons_of_neg (by simp [hd])

/-- The integer that is found in a text is the one at its front, and there is only one. -/
theorem leadingInt?_eq_some {s : String} {n : Int} :
    leadingInt? s = some n ↔ Leads s.toList n := by
  rw [leadingInt?_eq]
  constructor
  · intro hn
    obtain ⟨sign, hsign, hsplit⟩ := afterSign_split (s.toList.dropWhile isBlank)
    generalize afterSign (s.toList.dropWhile isBlank) = signed at hn hsign hsplit
    obtain ⟨unit, cs⟩ := signed
    dsimp only at hn hsign hsplit
    by_cases hne : cs.takeWhile isDigit = []
    · rw [if_pos hne] at hn
      cases hn
    · rw [if_neg hne] at hn
      obtain rfl := Option.some.inj hn
      have htext : s.toList = s.toList.takeWhile isBlank ++
          (sign ++ (cs.takeWhile isDigit ++ cs.dropWhile isDigit)) := by
        rw [List.takeWhile_append_dropWhile, ← hsplit, List.takeWhile_append_dropWhile]
      rw [htext]
      exact .intro (fun c => List.mem_takeWhile_imp) hsign hne (fun c => List.mem_takeWhile_imp)
        (head_dropWhile cs)
  · intro hn
    generalize s.toList = cs at hn
    obtain ⟨hmargin, hsign, hne, hdigits, hrest⟩ := hn
    rw [List.dropWhile_append_of_pos hmargin, dropWhile_unblank hsign hne hdigits,
      afterSign_append hsign hne hdigits]
    dsimp only
    rw [takeWhile_run hdigits hrest, if_neg hne]

/-! ## What becomes of a value -/

/-- The value is written out where an integer is looked for. -/
def Written : Value → Prop
  | .null | .bool _ | .int _ | .float _ => False
  | _ => True

inductive Reads : Value → Int → Prop
  | int (n : Int) : Reads (.int n) n
  | float {x : Float} {b : Decimal.Binary} : Decimal.Reading.ofFloat x = .finite b →
      Reads (.float x) b.truncate
  | written {v : Value} {n : Int} : Written v → Leads v.display.toList n → Reads v n

/-- The doubles that are no numbers. -/
inductive Escapes : Value → Fault → Prop
  | infinite {x : Float} {negative : Bool} : Decimal.Reading.ofFloat x = .infinite negative →
      Escapes (.float x) .infinityToInt
  | notANumber {x : Float} : Decimal.Reading.ofFloat x = .notANumber →
      Escapes (.float x) .nanToInt

inductive Unreadable : Value → Prop
  | null : Unreadable .null
  | bool (b : Bool) : Unreadable (.bool b)
  | written {v : Value} : Written v → (∀ n, ¬ Leads v.display.toList n) → Unreadable v

section Readings

variable {v : Value}

theorem int?_of_written (hv : Written v) (d : Option Int) :
    int? v d = .ok ((leadingInt? v.display).or d) := by
  cases v <;> first | rfl | exact hv.elim

theorem int?_of_reads {n : Int} (hn : Reads v n) (d : Option Int) : int? v d = .ok (some n) := by
  cases hn with
  | int n => rfl
  | float hx =>
    rw [int?, truncate, hx]
    rfl
  | written hv hleads =>
    rw [int?_of_written hv, leadingInt?_eq_some.2 hleads]
    rfl

theorem int?_of_escapes {f : Fault} (hf : Escapes v f) (d : Option Int) : int? v d = .error f := by
  cases hf with
  | infinite hx | notANumber hx =>
    rw [int?, truncate, hx]
    rfl

theorem int?_of_unreadable (hv : Unreadable v) (d : Option Int) : int? v d = .ok d := by
  cases hv with
  | null | bool b => rfl
  | written hwritten hnone =>
    have hlead : leadingInt? v.display = none := by
      by_contra hsome
      obtain ⟨n, hn⟩ := Option.ne_none_iff_exists'.1 hsome
      exact hnone n (leadingInt?_eq_some.1 hn)
    rw [int?_of_written hwritten, hlead]
    rfl

/-- There is nothing else that can become of a value. -/
theorem reads_or (v : Value) : (∃ n, Reads v n) ∨ Unreadable v ∨ ∃ f, Escapes v f := by
  by_cases hwritten : Written v
  · by_cases hlead : ∃ n, Leads v.display.toList n
    · obtain ⟨n, hn⟩ := hlead
      exact .inl ⟨n, .written hwritten hn⟩
    · exact .inr (.inl (.written hwritten (not_exists.1 hlead)))
  · cases v with
    | null => exact .inr (.inl .null)
    | bool b => exact .inr (.inl (.bool b))
    | int n => exact .inl ⟨n, .int n⟩
    | float x =>
      cases hx : Decimal.Reading.ofFloat x with
      | finite b => exact .inl ⟨_, .float hx⟩
      | infinite negative => exact .inr (.inr ⟨_, .infinite hx⟩)
      | notANumber => exact .inr (.inr ⟨_, .notANumber hx⟩)
    | _ => exact absurd trivial hwritten

end Readings

/-- What is taken for a value when there is a default: what is read, or else the default. -/
inductive Chosen (v : Value) (d : Int) : Int → Prop
  | read {n : Int} : Reads v n → Chosen v d n
  | fallback : Unreadable v → Chosen v d d

theorem int?_of_chosen {v : Value} {d n : Int} (hn : Chosen v d n) :
    int? v (some d) = .ok (some n) := by
  cases hn with
  | read hn => exact int?_of_reads hn _
  | fallback hv => exact int?_of_unreadable hv _

/-! ## Loops and waits -/

theorem loopCount_of_chosen {c : Config} {v : Value} {n : Int}
    (hn : Chosen v c.defaultLoopCount n) :
    Repeater.loopCount c v = .ok (if n < 1 then c.defaultLoopCount else n) := by
  unfold Repeater.loopCount
  rw [int?_of_chosen hn]
  rfl

section Waits

variable {W T P : Type} [Clock T] {e : Engagement} {params : Mapping} {n : Int}

theorem wait_of_chosen (hn : Chosen (Mapping.named params "duration") e.config.defaultWaitMs n)
    (tab : TabRef) :
    (Step.wait e params tab : Activity W T P StepResult) =
      Activity.ofExcept (Clock.ofMillis (T := T) (max 0 n)) >>= fun d =>
        Activity.sleep d >>= fun _ => pure ⟨tab, none⟩ := by
  unfold Step.wait
  rw [int?_of_chosen hn]
  rfl

/-- With exact time and no deadline a wait is over after its milliseconds. -/
theorem wait_exact (hn : Chosen (Mapping.named params "duration") e.config.defaultWaitMs n)
    (tab : TabRef) (h : Host W Rat) (s : Scene W Rat) (p : P) :
    ∃ s', Step.wait e params tab h [] s p = (.done ⟨tab, none⟩, s', p) ∧
      s'.now = s.now + max 0 n / 1000 := by
  have hnonneg : (0 : Rat) ≤ (max 0 n : Int) / 1000 :=
    div_nonneg (Int.cast_nonneg (le_max_left 0 n)) (by norm_num)
  rw [wait_of_chosen hn tab, Clock.ofMillis_eq, Activity.ofExcept_ok, Activity.pure_bind]
  have hbefore : Activity.Before s.now [] := nofun
  obtain ⟨s', hslept, hnow, -⟩ | ⟨k, s', -, -, hfirst⟩ :=
    Activity.sleep_cases h ((max 0 n : Int) / 1000 : Rat) (p := p) hbefore
  · rw [Activity.bind_done hslept]
    exact ⟨s', rfl, by rw [hnow, max_eq_right hnonneg]⟩
  · exact absurd hfirst.own (by simp)

end Waits

/-- A number is read, or the default stands in for it: a loop runs at least once, and a wait takes
no less than no time. Only what escapes from being an integer fails, and so does its block. -/
theorem numbers_fall_back {W T P : Type} [Clock T] (v : Value) :
    ((∃ n, Reads v n) ∨ Unreadable v ∨ ∃ f, Escapes v f) ∧
    (∀ d, (∀ n, Reads v n → int? v d = .ok (some n)) ∧ (Unreadable v → int? v d = .ok d) ∧
      ∀ f, Escapes v f → int? v d = .error f) ∧
    (∀ c : Config, 1 ≤ c.defaultLoopCount →
      (∀ n, Chosen v c.defaultLoopCount n → ∃ k, Repeater.loopCount c v = .ok k ∧ 1 ≤ k ∧
        (1 ≤ n → k = n) ∧ (n < 1 → k = c.defaultLoopCount)) ∧
      ∀ f, Escapes v f → Repeater.loopCount c v = .error f) ∧
    ∀ (e : Engagement) (params : Mapping) (tab : TabRef), Mapping.named params "duration" = v →
      (∀ n, Chosen v e.config.defaultWaitMs n →
        (Step.wait e params tab : Activity W T P StepResult) =
            (Activity.ofExcept (Clock.ofMillis (T := T) (max 0 n)) >>= fun d =>
              Activity.sleep d >>= fun _ => pure ⟨tab, none⟩) ∧
          ∀ (h : Host W Rat) (s : Scene W Rat) (p : P), ∃ s',
            Step.wait e params tab h [] s p = (.done ⟨tab, none⟩, s', p) ∧
              s'.now = s.now + max 0 n / 1000) ∧
      ∀ f, Escapes v f →
        (Step.wait e params tab : Activity W T P StepResult) = Activity.fail f := by
  refine ⟨reads_or v, fun d => ⟨fun n hn => int?_of_reads hn d, fun hv => int?_of_unreadable hv d,
    fun f hf => int?_of_escapes hf d⟩, fun c hdefault => ⟨fun n hn => ?_, fun f hf => ?_⟩, ?_⟩
  · have hlarge : 1 ≤ n → (if n < 1 then c.defaultLoopCount else n) = n :=
      fun hn => if_neg (not_lt.2 hn)
    have hsmall : n < 1 → (if n < 1 then c.defaultLoopCount else n) = c.defaultLoopCount :=
      fun hn => if_pos hn
    exact ⟨_, loopCount_of_chosen hn, by split <;> omega, hlarge, hsmall⟩
  · rw [Repeater.loopCount, int?_of_escapes hf]
    rfl
  · rintro e params tab rfl
    refine ⟨fun n hn => ⟨wait_of_chosen hn tab, wait_exact hn tab⟩, fun f hf => ?_⟩
    rw [Step.wait, int?_of_escapes hf]
    rfl

theorem escapes_infinity : Escapes (.float (1.0 / 0.0)) .infinityToInt := by
  have hinfinite : Decimal.Reading.ofFloat (1.0 / 0.0) = .infinite false := by decide
  exact .infinite hinfinite

theorem not_always_an_integer :
    ¬ ∀ (v : Value) (d : Int), ∃ n, int? v (some d) = .ok (some n) := by
  intro hall
  obtain ⟨n, hn⟩ := hall (.float (1.0 / 0.0)) 3
  rw [int?_of_escapes escapes_infinity] at hn
  cases hn

end Parameter
end BrowserFlow
