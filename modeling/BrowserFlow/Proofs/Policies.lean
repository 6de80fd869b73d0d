import BrowserFlow.Proofs.Numerals
import BrowserFlow.Step.Condition

/-!
What a failed condition may do to the run, as it is written in a block: the word `skip` with the
number of blocks to leave out, or anything else for a stop.

* `FailurePolicy.Skips`: the texts that ask for leaving blocks out, and how many.
* `FailurePolicy.ofValue_reads`: a value is read as these texts say. A dash in front of the number
  is a mark and no sign, so that no count is negative.
-/
namespace BrowserFlow.FailurePolicy
set_option autoImplicit false

open Text

/-! ## How a policy is written -/

/-- What may stand between the word and the number. -/
def Mark (c : Char) : Prop := isBlank c = true ∨ c = ':' ∨ c = '_' ∨ c = '-'

theorem isMark_iff {c : Char} : isMark c = true ↔ Mark c := by
  simp [isMark, Mark, or_assoc]

theorem isMark_of_isDigit : ∀ c, isDigit c = true → isMark c = false := by
  refine mark_of_isDigit fun c hc => ?_
  obtain hblank | rfl | rfl | rfl := isMark_iff.1 hc
  · exact .inl hblank
  · exact .inr (by decide)
  · exact .inr (by decide)
  · exact .inr (by decide)

/-- The texts that ask for leaving blocks out: the word alone for one block, or the word, any marks
and the number of blocks. -/
inductive Skips : List Char → Nat → Prop
  | once : Skips "skip".toList 1
  | counted {marks digits : List Char} {n : Nat} : (∀ c ∈ marks, Mark c) → Numeral digits n →
      Skips ("skip".toList ++ (marks ++ digits)) n

/-! ## How a policy is read -/

theorem ofRest_counted {marks digits : List Char} {n : Nat} (hmarks : ∀ c ∈ marks, Mark c)
    (hn : Numeral digits n) : ofRest (marks ++ digits) = skip n := by
  have hdrop : (marks ++ digits).dropWhile isMark = digits :=
    hn.dropWhile_marks isMark_of_isDigit fun c hc => isMark_iff.2 (hmarks c hc)
  have hne : marks ++ digits ≠ [] := List.append_ne_nil_of_right_ne_nil _ hn.ne_nil
  rw [ofRest, hdrop, if_neg hne, if_pos ⟨hn.ne_nil, hn.all⟩, hn.value]

theorem ofRest_eq_skip {cs : List Char} {n : Nat} (hskip : ofRest cs = skip n) :
    Skips ("skip".toList ++ cs) n := by
  dsimp only [ofRest] at hskip
  split at hskip
  · rename_i hnil
    cases hskip
    rw [hnil, List.append_nil]
    exact .once
  · split at hskip
    · rename_i hdigits
      cases hskip
      have hmarks : ∀ c ∈ cs.takeWhile isMark, Mark c := fun c hc =>
        isMark_iff.1 (List.mem_takeWhile_imp hc)
      have hcounted := Skips.counted hmarks (numeral_of_all hdigits.1 hdigits.2)
      rwa [List.takeWhile_append_dropWhile] at hcounted
    · cases hskip

/-- The policy of a text that is trimmed and in lower case. -/
def ofChars : List Char → FailurePolicy
  | 's' :: 'k' :: 'i' :: 'p' :: rest => ofRest rest
  | _ => stop

theorem ofChars_eq_skip {cs : List Char} {n : Nat} : ofChars cs = skip n ↔ Skips cs n := by
  constructor
  · intro hskip
    unfold ofChars at hskip
    split at hskip
    · exact ofRest_eq_skip hskip
    · cases hskip
  · intro hskips
    cases hskips with
    | once => rfl
    | counted hmarks hn =>
      have hrest := ofRest_counted hmarks hn
      exact hrest

theorem ofValue_eq (v : Value) : ofValue v = ofChars (lower (trim v.display)).toList := by
  unfold ofValue
  split
  · have hnone : lower (trim Value.null.display) = "none" := by decide
    rw [hnone]
    rfl
  · generalize (lower (trim v.display)).toList = cs
    rfl

theorem eq_stop_iff (p : FailurePolicy) : p = stop ↔ ∀ n, p ≠ skip n := by
  cases p <;> simp

/-! ## Written numbers -/

theorem lowered_of_toLower {c : Char} (hascii : c.toNat < 128) (hc : c.toLower = c) :
    Lowered c := by
  have hsigma : c.toNat ≠ 931 := by omega
  refine ⟨hsigma, ?_⟩
  rw [lowerChar, if_pos hascii, hc]

theorem lowered_skip : ∀ c ∈ "skip ".toList, Lowered c := by
  have hall : "skip ".toList.all (fun c => c.toNat < 128 && c.toLower == c) = true := by decide
  intro c hc
  have hboth := List.all_eq_true.1 hall c hc
  rw [Bool.and_eq_true, decide_eq_true_iff, beq_iff_eq] at hboth
  exact lowered_of_toLower hboth.1 hboth.2

theorem lower_trim_skip (z : Int) :
    lower (trim ("skip " ++ toString z)) = "skip " ++ toString z := by
  have hfirst : ∀ c ∈ ("skip " ++ toString z).toList.head?, isBlank c = false := by
    rw [String.toList_append]
    rintro c ⟨⟩
    decide
  have hlast : ∀ c ∈ ("skip " ++ toString z).toList.getLast?, isBlank c = false := by
    intro c hc
    rw [String.toList_append, toList_toString, ← List.append_assoc] at hc
    exact isBlank_of_isDigit ((numeral_toDigits z.natAbs).last_isDigit _ c hc)
  have hlowered : ∀ c ∈ ("skip " ++ toString z).toList, Lowered c := by
    intro c hc
    rw [String.toList_append] at hc
    obtain hc | hc := List.mem_append.1 hc
    · exact lowered_skip c hc
    · exact (settled_toString hc).2
  rw [lower, trim, trimChars_eq_self hfirst hlast, String.toList_ofList,
    lowerFrom_lowered hlowered, String.ofList_toList]

/-- The blank and the minus are both marks. -/
theorem skips_toString (z : Int) : Skips ("skip " ++ toString z).toList z.natAbs := by
  have hmarks : ∀ c ∈ ' ' :: (if z < 0 then ['-'] else []), Mark c := by
    intro c hc
    obtain rfl | hc := List.mem_cons.1 hc
    · exact .inl (by decide)
    · split at hc
      · exact .inr (.inr (.inr (List.mem_singleton.1 hc)))
      · cases hc
  rw [String.toList_append, toList_toString]
  exact .counted hmarks (numeral_toDigits z.natAbs)

theorem ofValue_toString (z : Int) :
    ofValue (.text ("skip " ++ toString z)) = skip z.natAbs := by
  have htext : (lower (trim (Value.text ("skip " ++ toString z)).display)).toList =
      ("skip " ++ toString z).toList := congrArg String.toList (lower_trim_skip z)
  rw [ofValue_eq, htext]
  exact ofChars_eq_skip.2 (skips_toString z)

/-- A value asks for leaving out as many blocks as its text says, and for a stop when its text says
nothing of the kind. -/
theorem ofValue_reads (v : Value) :
    (∀ n, ofValue v = .skip n ↔ Skips (lower (trim v.display)).toList n) ∧
    (ofValue v = .stop ↔ ∀ n, ¬ Skips (lower (trim v.display)).toList n) ∧
    ofValue .null = .stop ∧
    (∀ n : Nat, ofValue (.text ("skip " ++ toString n)) = .skip n) ∧
    ∀ z : Int, z < 0 → ofValue (.text ("skip " ++ toString z)) = .skip z.natAbs := by
  have hskip (n : Nat) : ofValue v = .skip n ↔ Skips (lower (trim v.display)).toList n := by
    rw [ofValue_eq]
    exact ofChars_eq_skip
  refine ⟨hskip, ?_, rfl, fun n => ofValue_toString n, fun z _ => ofValue_toString z⟩
  rw [eq_stop_iff]
  exact forall_congr' fun n => not_congr (hskip n)

end BrowserFlow.FailurePolicy
