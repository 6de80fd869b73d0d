import BrowserFlow.Page.Words
import BrowserFlow.Proofs.Numerals

/-!
Picking words out of a text.

* `Text.Parts`: the maximal runs of a text that have no blank, stated by concatenation alone.
* `WordSelection.Spells`: the index texts that ask for a word or for a range of words.
* `selectWords_composes`: what every index selects. A selection is a text again, and its words are
  the words that were selected.
-/
namespace BrowserFlow
set_option autoImplicit false

/-! ## The words of a text -/

namespace Text

def IsRun (word : List Char) : Prop := word ≠ [] ∧ ∀ c ∈ word, isBlank c = false

/-- The maximal runs of characters that are not blank, in order. -/
inductive Parts : List Char → List (List Char) → Prop
  | blank {gap : List Char} : (∀ c ∈ gap, isBlank c = true) → Parts gap []
  | word {gap word rest : List Char} {words : List (List Char)} :
      (∀ c ∈ gap, isBlank c = true) → IsRun word → (∀ c ∈ rest.head?, isBlank c = true) →
      Parts rest words → Parts (gap ++ (word ++ rest)) (word :: words)

/-- No word goes beyond a blank. -/
theorem wordsFrom_blank {b : Char} (hb : isBlank b = true) (word before after : List Char) :
    wordsFrom word (before ++ b :: after) = wordsFrom word before ++ wordsFrom [] after := by
  induction before generalizing word with
  | nil =>
    rw [List.nil_append, wordsFrom, wordsFrom, if_pos hb]
    split <;> rfl
  | cons c before ih =>
    rw [List.cons_append, wordsFrom, wordsFrom, ih, ih]
    split
    · split <;> rfl
    · rfl

theorem wordsFrom_front {gap : List Char} (hgap : ∀ c ∈ gap, isBlank c = true) (cs : List Char) :
    wordsFrom [] (gap ++ cs) = wordsFrom [] cs := by
  induction gap with
  | nil => rfl
  | cons b gap ih =>
    obtain ⟨hb, hrest⟩ := List.forall_mem_cons.1 hgap
    have hsplit := wordsFrom_blank hb [] [] (gap ++ cs)
    rw [List.nil_append] at hsplit
    rw [List.cons_append, hsplit, ih hrest]
    rfl

theorem wordsFrom_back {gap : List Char} (hgap : ∀ c ∈ gap, isBlank c = true) (cs : List Char) :
    wordsFrom [] (cs ++ gap) = wordsFrom [] cs := by
  cases gap with
  | nil => rw [List.append_nil]
  | cons b gap =>
    obtain ⟨hb, hrest⟩ := List.forall_mem_cons.1 hgap
    have hnone := wordsFrom_front hrest []
    rw [List.append_nil] at hnone
    rw [wordsFrom_blank hb, hnone, wordsFrom, if_pos rfl, List.append_nil]

theorem wordsFrom_run {word : List Char} (hword : ∀ c ∈ word, isBlank c = false)
    (before : List Char) (hne : before ++ word ≠ []) :
    wordsFrom before word = [before ++ word] := by
  induction word generalizing before with
  | nil =>
    rw [List.append_nil] at hne ⊢
    rw [wordsFrom, if_neg hne]
  | cons c word ih =>
    obtain ⟨hc, hrest⟩ := List.forall_mem_cons.1 hword
    have hshift : before ++ c :: word = (before ++ [c]) ++ word := by simp
    rw [hshift] at hne ⊢
    rw [wordsFrom, hc, if_neg Bool.false_ne_true, ih hrest _ hne]

theorem wordsFrom_isRun {word : List Char} (hword : IsRun word) : wordsFrom [] word = [word] :=
  wordsFrom_run hword.2 [] hword.1

theorem Parts.eq_wordsFrom {cs : List Char} {words : List (List Char)} (hp : Parts cs words) :
    words = wordsFrom [] cs := by
  induction hp with
  | blank hgap =>
    have hnone := wordsFrom_front hgap []
    rw [List.append_nil] at hnone
    rw [hnone]
    rfl
  | @word gap word rest words hgap hword hrest _ ih =>
    rw [wordsFrom_front hgap, ih]
    cases rest with
    | nil =>
      rw [List.append_nil, wordsFrom_isRun hword]
      rfl
    | cons b rest =>
      have hb : isBlank b = true := hrest b rfl
      have hfront := wordsFrom_blank hb [] [] rest
      rw [List.nil_append] at hfront
      rw [wordsFrom_blank hb, wordsFrom_isRun hword, hfront]
      rfl

theorem exists_run {cs : List Char} (hne : cs ≠ []) (hfirst : ∀ c ∈ cs.head?, isBlank c = false) :
    ∃ word rest, cs = word ++ rest ∧ IsRun word ∧ ∀ c ∈ rest.head?, isBlank c = true := by
  refine ⟨cs.takeWhile (!isBlank ·), cs.dropWhile (!isBlank ·),
    List.takeWhile_append_dropWhile.symm, ⟨?_, fun c hc => ?_⟩, fun c hc => ?_⟩
  · obtain ⟨c, cs, rfl⟩ := List.exists_cons_of_ne_nil hne
    have hc : isBlank c = false := hfirst c rfl
    simp [hc]
  · simpa using List.mem_takeWhile_imp hc
  · simpa using head_dropWhile cs c hc

theorem parts_wordsFrom (cs : List Char) : Parts cs (wordsFrom [] cs) := by
  -- what is left behind the first word is shorter than the text
  induction hn : cs.length using Nat.strongRecOn generalizing cs with
  | _ n ih =>
    subst hn
    have hgap : ∀ c ∈ cs.takeWhile isBlank, isBlank c = true := fun c => List.mem_takeWhile_imp
    have hcs := List.takeWhile_append_dropWhile (p := isBlank) (l := cs)
    have hfirst := head_dropWhile (p := isBlank) cs
    generalize cs.dropWhile isBlank = body at hcs hfirst
    by_cases hbody : body = []
    · rw [hbody, List.append_nil] at hcs
      rw [hcs] at hgap
      have hblank := Parts.blank hgap
      rwa [← hblank.eq_wordsFrom]
    · obtain ⟨word, rest, rfl, hword, hrest⟩ := exists_run hbody hfirst
      have hlen : rest.length < cs.length := by
        have hpos := List.length_pos_iff.2 hword.1
        rw [← hcs, List.length_append, List.length_append]
        omega
      have hparts := Parts.word hgap hword hrest (ih _ hlen rest rfl)
      rw [hcs] at hparts
      rwa [← hparts.eq_wordsFrom]

theorem parts_iff {cs : List Char} {words : List (List Char)} :
    Parts cs words ↔ words = wordsFrom [] cs := by
  constructor
  · exact Parts.eq_wordsFrom
  · rintro rfl
    exact parts_wordsFrom cs

theorem Parts.isRun {cs : List Char} {words : List (List Char)} (hp : Parts cs words) :
    ∀ word ∈ words, IsRun word := by
  induction hp with
  | blank _ => exact nofun
  | word _ hword _ _ ih => exact List.forall_mem_cons.2 ⟨hword, ih⟩

/-- Trimming takes blanks away, and only at the ends. -/
theorem trimChars_split (cs : List Char) :
    ∃ front back, cs = front ++ (trimChars cs ++ back) ∧ (∀ c ∈ front, isBlank c = true) ∧
      ∀ c ∈ back, isBlank c = true := by
  have hfront := List.takeWhile_append_dropWhile (p := isBlank) (l := cs)
  have hback := List.takeWhile_append_dropWhile (p := isBlank) (l := (cs.dropWhile isBlank).reverse)
  refine ⟨cs.takeWhile isBlank, ((cs.dropWhile isBlank).reverse.takeWhile isBlank).reverse, ?_,
    fun c => List.mem_takeWhile_imp, fun c hc => List.mem_takeWhile_imp (List.mem_reverse.1 hc)⟩
  rw [trimChars, ← List.reverse_append, hback, List.reverse_reverse, hfront]

theorem wordsFrom_trimChars (cs : List Char) : wordsFrom [] (trimChars cs) = wordsFrom [] cs := by
  obtain ⟨front, back, hcs, hfront, hback⟩ := trimChars_split cs
  conv_rhs => rw [hcs]
  rw [wordsFrom_front hfront, wordsFrom_back hback]

/-- Words that are joined by single spaces are the words of what they are joined to. -/
theorem wordsFrom_intercalate {words : List (List Char)} (hwords : ∀ word ∈ words, IsRun word) :
    wordsFrom [] ([' '].intercalate words) = words := by
  induction words with
  | nil => rfl
  | cons word words ih =>
    obtain ⟨hword, hrest⟩ := List.forall_mem_cons.1 hwords
    cases words with
    | nil => rw [List.intercalate_singleton, wordsFrom_isRun hword]
    | cons next words =>
      have hspace : isBlank ' ' = true := by decide
      rw [List.intercalate_cons_cons, List.append_assoc, List.singleton_append,
        wordsFrom_blank hspace, wordsFrom_isRun hword, ih hrest, List.singleton_append]

end Text

/-! ## Index texts -/

namespace WordSelection
open Text

/-- What may stand between the ends of a range. -/
def Mark (c : Char) : Prop := isBlank c = true ∨ c = '-'

theorem isRangeMark_iff {c : Char} : isRangeMark c = true ↔ Mark c := by
  simp [isRangeMark, Mark]

theorem isRangeMark_of_isDigit : ∀ c, isDigit c = true → isRangeMark c = false := by
  refine mark_of_isDigit fun c hc => ?_
  obtain hblank | rfl := isRangeMark_iff.1 hc
  · exact .inl hblank
  · exact .inr (by decide)

/-- The index texts that select: a number alone, or two numbers with marks between them. -/
inductive Spells : List Char → WordSelection → Prop
  | word {digits : List Char} {a : Nat} : Numeral digits a → Spells digits (.word a)
  | range {left marks right : List Char} {a b : Nat} : Numeral left a → marks ≠ [] →
      (∀ c ∈ marks, Mark c) → Numeral right b → Spells (left ++ (marks ++ right)) (.range a b)

theorem ofChars_word {digits : List Char} {a : Nat} (ha : Numeral digits a) :
    ofChars digits = .word a := by
  have hend : ∀ c ∈ ([] : List Char).head?, isDigit c = false := nofun
  have htake := takeWhile_run ha.isDigit hend
  have hdrop := dropWhile_run ha.isDigit hend
  rw [List.append_nil] at htake hdrop
  simp only [ofChars]
  rw [htake, hdrop, if_neg ha.ne_nil, if_pos rfl, ha.value]

theorem ofChars_range {left marks right : List Char} {a b : Nat} (ha : Numeral left a)
    (hne : marks ≠ []) (hmarks : ∀ c ∈ marks, Mark c) (hb : Numeral right b) :
    ofChars (left ++ (marks ++ right)) = .range a b := by
  have hisMark : ∀ c ∈ marks, isRangeMark c = true := fun c hc => isRangeMark_iff.2 (hmarks c hc)
  have hafter : ∀ c ∈ (marks ++ right).head?, isDigit c = false := by
    obtain ⟨m, ms, rfl⟩ := List.exists_cons_of_ne_nil hne
    intro c hc
    cases hc
    rw [Bool.eq_false_iff]
    intro hdigit
    have hm := hisMark m List.mem_cons_self
    rw [isRangeMark_of_isDigit m hdigit] at hm
    cases hm
  have htake := takeWhile_run ha.isDigit hafter
  have hdrop := dropWhile_run ha.isDigit hafter
  have htakeMarks := hb.takeWhile_marks isRangeMark_of_isDigit hisMark
  have hdropMarks := hb.dropWhile_marks isRangeMark_of_isDigit hisMark
  have hrest : marks ++ right ≠ [] := List.append_ne_nil_of_left_ne_nil hne _
  simp only [ofChars]
  rw [htake, hdrop, htakeMarks, hdropMarks, if_neg ha.ne_nil, if_neg hrest,
    if_pos ⟨hne, hb.ne_nil, hb.all⟩, ha.value, hb.value]

theorem Spells.ofChars_eq {cs : List Char} {s : WordSelection} (hs : Spells cs s) :
    ofChars cs = s := by
  cases hs with
  | word ha => exact ofChars_word ha
  | range ha hne hmarks hb => exact ofChars_range ha hne hmarks hb

theorem ofChars_cases (cs : List Char) : ofChars cs = .nothing ∨ Spells cs (ofChars cs) := by
  have hdigits : ∀ c ∈ cs.takeWhile isDigit, isDigit c = true := fun c => List.mem_takeWhile_imp
  have hcs := List.takeWhile_append_dropWhile (p := isDigit) (l := cs)
  simp only [ofChars]
  generalize cs.takeWhile isDigit = left at hcs hdigits
  generalize cs.dropWhile isDigit = rest at hcs
  by_cases hleft : left = []
  · exact .inl (if_pos hleft)
  · have ha : Numeral left (digitsValue left) := ⟨hleft, hdigits, rfl⟩
    rw [if_neg hleft]
    by_cases hrest : rest = []
    · rw [hrest, List.append_nil] at hcs
      rw [if_pos hrest, ← hcs]
      exact .inr (.word ha)
    · rw [if_neg hrest]
      by_cases hright : rest.takeWhile isRangeMark ≠ [] ∧ rest.dropWhile isRangeMark ≠ [] ∧
          (rest.dropWhile isRangeMark).all isDigit = true
      · obtain ⟨hne, hlast, hall⟩ := hright
        have hmarks : ∀ c ∈ rest.takeWhile isRangeMark, Mark c := fun c hc =>
          isRangeMark_iff.1 (List.mem_takeWhile_imp hc)
        have hrange := Spells.range ha hne hmarks (numeral_of_all hlast hall)
        rw [List.takeWhile_append_dropWhile, hcs] at hrange
        rw [if_pos ⟨hne, hlast, hall⟩]
        exact .inr hrange
      · exact .inl (if_neg hright)

/-- The text of an index, without blanks around it. -/
def indexText (v : Value) : List Char := trimChars v.display.toList

theorem ofValue_eq {v : Value} (hv : v ≠ .null) :
    ofValue v = if indexText v = [] then .whole else ofChars (indexText v) := by
  cases v with
  | null => exact absurd rfl hv
  | _ => rfl

theorem Spells.selects {cs : List Char} {s : WordSelection} (hs : Spells cs s) :
    s ≠ .whole ∧ s ≠ .nothing := by
  cases hs <;> exact ⟨nofun, nofun⟩

theorem Spells.ofValue_eq {v : Value} {s : WordSelection} (hs : Spells (indexText v) s) :
    ofValue v = s := by
  have hread := hs.ofChars_eq
  have hv : v ≠ .null := by
    rintro rfl
    have hnothing : ofChars (indexText .null) = .nothing := by decide
    exact hs.selects.2 (hread.symm.trans hnothing)
  have hne : indexText v ≠ [] := by
    intro hnil
    rw [hnil] at hread
    exact hs.selects.2 hread.symm
  rw [WordSelection.ofValue_eq hv, if_neg hne, hread]

theorem ofValue_unspelt {v : Value} (hv : v ≠ .null) (hne : indexText v ≠ [])
    (hnone : ∀ s, ¬ Spells (indexText v) s) : ofValue v = .nothing := by
  rw [ofValue_eq hv, if_neg hne]
  exact (ofChars_cases (indexText v)).resolve_right (hnone _)

theorem ofValue_blank {v : Value} (hv : v = .null ∨ indexText v = []) : ofValue v = .whole := by
  by_cases hnull : v = .null
  · subst hnull
    rfl
  · rw [ofValue_eq hnull, if_pos (hv.resolve_left hnull)]

/-! ## Written indexes -/

theorem indexText_eq {v : Value} {cs : List Char} (hv : v.display.toList = cs)
    (hfirst : ∀ c ∈ cs.head?, isDigit c = true) (hlast : ∀ c ∈ cs.getLast?, isDigit c = true) :
    indexText v = cs := by
  rw [indexText, hv]
  exact trimChars_eq_self (fun c hc => isBlank_of_isDigit (hfirst c hc)) fun c hc =>
    isBlank_of_isDigit (hlast c hc)

theorem spells_word {v : Value} {a : Nat} (hv : v.display = toString a) :
    Spells (indexText v) (.word a) := by
  have ha := numeral_toString a
  have hfirst := ha.head_isDigit []
  have hlast := ha.last_isDigit []
  rw [List.append_nil] at hfirst
  rw [List.nil_append] at hlast
  rw [indexText_eq (congrArg String.toList hv) hfirst hlast]
  exact .word ha

theorem spells_range {marks : String} (hne : marks ≠ "") (hmarks : ∀ c ∈ marks.toList, Mark c)
    (a b : Nat) :
    Spells (indexText (.text (toString a ++ marks ++ toString b))) (.range a b) := by
  have ha := numeral_toString a
  have hb := numeral_toString b
  have hchars : (toString a ++ marks ++ toString b).toList =
      (toString a).toList ++ (marks.toList ++ (toString b).toList) := by
    rw [String.toList_append, String.toList_append, List.append_assoc]
  have hlast := hb.last_isDigit ((toString a).toList ++ marks.toList)
  rw [List.append_assoc] at hlast
  have hmarksNe : marks.toList ≠ [] := fun hnil => hne (String.toList_eq_nil_iff.1 hnil)
  rw [indexText_eq (v := .text _) hchars (ha.head_isDigit _) hlast]
  exact .range ha hmarksNe hmarks hb

end WordSelection

/-! ## Selections -/

section Selecting
open Text WordSelection

theorem words_trim (text : String) : words (trim text) = words text := by
  rw [words, words, trim, String.toList_ofList, wordsFrom_trimChars]

theorem isRun_of_mem_words {text word : String} (hword : word ∈ words text) :
    IsRun word.toList := by
  obtain ⟨cs, hcs, rfl⟩ := List.mem_map.1 hword
  rw [String.toList_ofList]
  exact (parts_wordsFrom text.toList).isRun cs hcs

theorem words_intercalate {ws : List String} (hws : ∀ w ∈ ws, IsRun w.toList) :
    words (String.intercalate " " ws) = ws := by
  have hruns : ∀ cs ∈ ws.map String.toList, IsRun cs := by
    intro cs hcs
    obtain ⟨w, hw, rfl⟩ := List.mem_map.1 hcs
    exact hws w hw
  have hjoined : (String.intercalate " " ws).toList = [' '].intercalate (ws.map String.toList) :=
    String.toList_intercalate
  rw [words, hjoined, wordsFrom_intercalate hruns, List.map_map]
  simp [Function.comp_def]

theorem selectWords_spelt {v : Value} {s : WordSelection} (hs : Spells (indexText v) s)
    (text : String) : selectWords text v = s.pick (words text) := by
  have hread := hs.ofValue_eq
  have hwhole := hs.selects.1
  rw [selectWords, hread, words_trim]
  cases s with
  | whole => exact absurd rfl hwhole
  | _ => rfl

/-- The words of a text from one number to another, as far as there are any. -/
structure Span (words : List String) (a b : Nat) (span : List String) : Prop where
  length : span.length = min b words.length + 1 - a
  word : ∀ k < span.length, span[k]? = words[a - 1 + k]?

theorem span_drop_take {words : List String} {a : Nat} (ha : 1 ≤ a) (b : Nat) :
    Span words a b ((words.take b).drop (a - 1)) := by
  have hlength : ((words.take b).drop (a - 1)).length = min b words.length + 1 - a := by
    rw [List.length_drop, List.length_take]
    omega
  refine ⟨hlength, fun k hk => ?_⟩
  rw [hlength] at hk
  rw [List.getElem?_drop, List.getElem?_take, if_pos (by omega)]

/-- What is selected from a text with these words. Words are counted from one. -/
structure Picks (text : String) (words : List String) : Prop where
  whole : ∀ v, v = .null ∨ indexText v = [] → selectWords text v = trim text
  word : ∀ v a w, Spells (indexText v) (.word a) → 1 ≤ a → words[a - 1]? = some w →
    selectWords text v = w
  noWord : ∀ v a, Spells (indexText v) (.word a) → a = 0 ∨ words.length < a →
    selectWords text v = ""
  range : ∀ v a b, Spells (indexText v) (.range a b) → 1 ≤ a → a ≤ b →
    ∃ span, Span words a b span ∧ selectWords text v = String.intercalate " " span
  noRange : ∀ v a b, Spells (indexText v) (.range a b) → a = 0 ∨ b < a →
    selectWords text v = ""
  nothing : ∀ v, v ≠ .null → indexText v ≠ [] → (∀ s, ¬ Spells (indexText v) s) →
    selectWords text v = ""

theorem picks_words (text : String) : Picks text (words text) where
  whole v hv := by
    rw [selectWords, ofValue_blank hv]
  word v a w hs ha hw := by
    obtain ⟨k, rfl⟩ := Nat.exists_eq_add_of_le' ha
    rw [selectWords_spelt hs, pick]
    rw [Nat.add_sub_cancel] at hw
    rw [hw]
    rfl
  noWord v a hs ha := by
    rw [selectWords_spelt hs]
    cases a with
    | zero => rfl
    | succ k =>
      have hnone : (words text)[k]? = none := List.getElem?_eq_none (by omega)
      rw [pick, hnone]
      rfl
  range v a b hs ha hab := by
    refine ⟨_, span_drop_take ha b, ?_⟩
    rw [selectWords_spelt hs, pick, if_pos ⟨ha, hab⟩]
  noRange v a b hs hab := by
    rw [selectWords_spelt hs, pick, if_neg (by omega)]
  nothing v hv hne hnone := by
    rw [selectWords, ofValue_unspelt hv hne hnone]
    rfl

theorem Span.isRun {text : String} {a b : Nat} {span : List String}
    (hspan : Span (words text) a b span) : ∀ w ∈ span, IsRun w.toList := by
  intro w hw
  obtain ⟨k, hk, rfl⟩ := List.mem_iff_getElem.1 hw
  have hget := hspan.word k hk
  rw [List.getElem?_eq_getElem hk] at hget
  exact isRun_of_mem_words (List.mem_of_getElem? hget.symm)

/-- The words of a selection are the selected words, so a word of a selection is the word of the
text that stands as much further on. -/
theorem selectWords_selectWords {text : String} {v w u : Value} {a b i : Nat}
    (hv : Spells (indexText v) (.range a b)) (hw : Spells (indexText w) (.word i))
    (hu : Spells (indexText u) (.word (a + i - 1))) (ha : 1 ≤ a) (hab : a ≤ b) (hi : 1 ≤ i)
    (hib : i ≤ b - a + 1) : selectWords (selectWords text v) w = selectWords text u := by
  obtain ⟨span, hspan, hselected⟩ := (picks_words text).range v a b hv ha hab
  have hagain := picks_words (selectWords text v)
  rw [hselected, words_intercalate hspan.isRun, ← hselected] at hagain
  have hlength := hspan.length
  by_cases hin : i ≤ span.length
  · have hget := hspan.word (i - 1) (by omega)
    have hplace : a - 1 + (i - 1) = a + i - 1 - 1 := by omega
    rw [List.getElem?_eq_getElem (by omega), hplace] at hget
    rw [hagain.word w i _ hw hi (List.getElem?_eq_getElem (by omega)),
      (picks_words text).word u _ _ hu (by omega) hget.symm]
  · rw [hagain.noWord w i hw (.inr (by omega)),
      (picks_words text).noWord u _ hu (.inr (by omega))]

/-- What an index selects depends on the words of the text and on the number or the two numbers in
the index; and selecting a word from a range of words is selecting it from the text. -/
theorem selectWords_composes (text : String) :
    (∀ ws, Parts text.toList ws ↔ ws = (words text).map String.toList) ∧
    Picks text (words text) ∧
    (∀ a : Nat, Spells (indexText (.int a)) (.word a) ∧
      Spells (indexText (.text (toString a))) (.word a)) ∧
    (∀ marks : String, marks ≠ "" → (∀ c ∈ marks.toList, Mark c) → ∀ a b : Nat,
      Spells (indexText (.text (toString a ++ marks ++ toString b))) (.range a b)) ∧
    ∀ v w u a b i, Spells (indexText v) (.range a b) → Spells (indexText w) (.word i) →
      Spells (indexText u) (.word (a + i - 1)) → 1 ≤ a → a ≤ b → 1 ≤ i → i ≤ b - a + 1 →
      selectWords (selectWords text v) w = selectWords text u := by
  have hwords : (words text).map String.toList = wordsFrom [] text.toList := by
    rw [words, List.map_map]
    simp [Function.comp_def]
  refine ⟨fun ws => ?_, picks_words text, fun a => ⟨spells_word rfl, spells_word rfl⟩,
    fun marks hne hmarks a b => spells_range hne hmarks a b, ?_⟩
  · rw [hwords]
    exact parts_iff
  · intro v w u a b i hv hw hu ha hab hi hib
    exact selectWords_selectWords hv hw hu ha hab hi hib

end Selecting
end BrowserFlow
