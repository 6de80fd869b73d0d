import BrowserFlow.Proofs.PassedValues

/-!
Numbers written inside a parameter: a run of decimal digits, of any script, and the marks around
it. A mark is never a digit, so a text can be read in one way only.
-/
namespace BrowserFlow.Text
set_option autoImplicit false

/-! ## Numerals -/

/-- A run of decimal digits and the number that it denotes. -/
structure Numeral (digits : List Char) (n : Nat) : Prop where
  ne_nil : digits ≠ []
  isDigit : ∀ c ∈ digits, isDigit c = true
  value : digitsValue digits = n

theorem numeral_of_all {digits : List Char} (hne : digits ≠ []) (hall : digits.all isDigit = true) :
    Numeral digits (digitsValue digits) :=
  ⟨hne, List.all_eq_true.1 hall, rfl⟩

theorem numeral_toDigits (n : Nat) : Numeral (Nat.toDigits 10 n) n :=
  ⟨Nat.toDigits_ne_nil, fun _ => isDigit_of_mem_toDigits, digitsValue_toDigits n⟩

theorem numeral_toString (n : Nat) : Numeral (toString n).toList n := by
  rw [Nat.toString_eq_repr, Nat.toList_repr]
  exact numeral_toDigits n

/-- A character that marks a place is a blank or a sign, and no digit. -/
theorem mark_of_isDigit {p : Char → Bool}
    (hp : ∀ c, p c = true → isBlank c = true ∨ isDigit c = false) (c : Char)
    (hc : isDigit c = true) : p c = false := by
  rw [Bool.eq_false_iff]
  intro hmark
  obtain hblank | hsign := hp c hmark
  · rw [isBlank_of_isDigit hc] at hblank
    cases hblank
  · rw [hc] at hsign
    cases hsign

namespace Numeral
variable {digits : List Char} {n : Nat}

theorem all (hn : Numeral digits n) : digits.all Text.isDigit = true :=
  List.all_eq_true.2 hn.isDigit

theorem head_isDigit (hn : Numeral digits n) (rest : List Char) :
    ∀ c ∈ (digits ++ rest).head?, Text.isDigit c = true := by
  intro c hc
  obtain ⟨d, ds, rfl⟩ := List.exists_cons_of_ne_nil hn.ne_nil
  have hd : Text.isDigit d = true := hn.isDigit d List.mem_cons_self
  rwa [← Option.some.inj hc]

theorem last_isDigit (hn : Numeral digits n) (before : List Char) :
    ∀ c ∈ (before ++ digits).getLast?, Text.isDigit c = true := by
  intro c hc
  have hlast := List.getLast?_eq_some_getLast hn.ne_nil
  rw [List.getLast?_append, hlast, Option.some_or, Option.mem_some_iff] at hc
  rw [← hc]
  exact hn.isDigit _ (List.getLast_mem hn.ne_nil)

/-! ## Marks -/

section Marks
variable {p : Char → Bool} {marks : List Char} (hp : ∀ c, Text.isDigit c = true → p c = false)
include hp

theorem takeWhile_marks (hn : Numeral digits n) (hmarks : ∀ c ∈ marks, p c = true) :
    (marks ++ digits).takeWhile p = marks := by
  have hhead := hn.head_isDigit []
  rw [List.append_nil] at hhead
  exact takeWhile_run hmarks fun c hc => hp c (hhead c hc)

theorem dropWhile_marks (hn : Numeral digits n) (hmarks : ∀ c ∈ marks, p c = true) :
    (marks ++ digits).dropWhile p = digits := by
  have hhead := hn.head_isDigit []
  rw [List.append_nil] at hhead
  exact dropWhile_run hmarks fun c hc => hp c (hhead c hc)

end Marks
end Numeral
end BrowserFlow.Text
