import BrowserFlow.Text.Digit
import BrowserFlow.Text.Run

/-!
Blank characters, and what is cut along them: trimmed text, words.
-/
namespace BrowserFlow.Text
set_option autoImplicit false

/-- White space of every script, the four separator controls included. -/
def isBlank (c : Char) : Bool :=
  let n := c.toNat
  (9 ≤ n && n ≤ 13) || (28 ≤ n && n ≤ 32) || n == 133 || n == 160 || n == 5760 ||
    (8192 ≤ n && n ≤ 8202) || n == 8232 || n == 8233 || n == 8239 || n == 8287 || n == 12288

/-- The text without blanks at its ends. -/
def trimChars (cs : List Char) : List Char :=
  ((cs.dropWhile isBlank).reverse.dropWhile isBlank).reverse

/-- The text without blanks at its ends. -/
def trim (s : String) : String := String.ofList (trimChars s.toList)

theorem trimChars_eq_self {cs : List Char} (hfirst : ∀ c ∈ cs.head?, isBlank c = false)
    (hlast : ∀ c ∈ cs.getLast?, isBlank c = false) : trimChars cs = cs := by
  have hreverse : ∀ c ∈ cs.reverse.head?, isBlank c = false := by
    rw [List.head?_reverse]
    exact hlast
  rw [trimChars, dropWhile_of_head hfirst, dropWhile_of_head hreverse, List.reverse_reverse]

/-- The words of a text, `word` being the one under way. -/
def wordsFrom (word : List Char) : List Char → List (List Char)
  | [] => if word = [] then [] else [word]
  | c :: rest =>
    if isBlank c then
      if word = [] then wordsFrom [] rest else word :: wordsFrom [] rest
    else wordsFrom (word ++ [c]) rest

/-- The maximal runs of characters that are not blank, in order. -/
def words (s : String) : List String := (wordsFrom [] s.toList).map String.ofList

/-! ## Digits and blanks -/

/-- The code points of the blanks that are not ASCII. -/
def wideBlanks : List Nat :=
  [133, 160, 5760, 8192, 8193, 8194, 8195, 8196, 8197, 8198, 8199, 8200, 8201, 8202, 8232, 8233,
    8239, 8287, 12288]

theorem mem_wideBlanks {c : Char} (hc : isBlank c = true) (hwide : 128 ≤ c.toNat) :
    c.toNat ∈ wideBlanks := by
  simp only [isBlank, Bool.or_eq_true, Bool.and_eq_true, decide_eq_true_eq, beq_iff_eq] at hc
  simp only [wideBlanks, List.mem_cons, List.not_mem_nil, or_false]
  omega

theorem wideBlanks_apart : ∀ n ∈ wideBlanks, ∀ z ∈ digitZeros, ¬ (z ≤ n ∧ n ≤ z + 9) := by
  decide +kernel

theorem isBlank_of_isDigit {c : Char} (hc : isDigit c = true) : isBlank c = false := by
  rw [Bool.eq_false_iff]
  intro hblank
  unfold isDigit digitValue? at hc
  by_cases hascii : c.toNat < 128
  · have hdigit : c.isDigit = true := by simpa [hascii] using hc
    have hrange : 48 ≤ c.toNat ∧ c.toNat ≤ 57 := by
      simpa [Char.isDigit, UInt32.le_iff_toNat_le] using hdigit
    simp only [isBlank, Bool.or_eq_true, Bool.and_eq_true, decide_eq_true_eq, beq_iff_eq] at hblank
    omega
  · rw [if_neg hascii, Option.isSome_map] at hc
    obtain ⟨z, hz⟩ := Option.isSome_iff_exists.1 hc
    have hrange : z ≤ c.toNat ∧ c.toNat ≤ z + 9 := by simpa using List.find?_some hz
    exact wideBlanks_apart _ (mem_wideBlanks hblank (Nat.not_lt.1 hascii)) z
      (List.mem_of_find?_eq_some hz) hrange

end BrowserFlow.Text
