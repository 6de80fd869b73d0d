import BrowserFlow.Proofs.Cutting
import BrowserFlow.Value.JsonReader
import BrowserFlow.Value.Json
import Mathlib.Data.List.Nodup
import Mathlib.Tactic.IntervalCases

/-!
JSON texts that are read back as what they were written from. A text is read back whatever its
characters are, and lists and records are when their parts are.

* `Json.stringRest?_escaped`: every escape is undone.
* `Json.ReadsBack`: the text of a value is read back, whatever stands behind it.
* `Json.readsBack_text`, `readsBack_list`, `readsBack_record`: values that are read back.
* `Json.read?_write`: a text that holds such a value and nothing else.
-/
namespace BrowserFlow.Json
set_option autoImplicit false

/-! ## Strings -/

theorem hex4?_hex {n : Nat} (hn : n < 32) (rest : List Char) :
    hex4? (Text.hex 4 n ++ rest) = some (n, rest) := by
  interval_cases n <;> rfl

theorem numberedEscape_control {n : Nat} (hn : n < 32) (rest : List Char) :
    numberedEscape n rest = (Char.ofNat n, rest) := by
  have hhigh : (decide (0xD800 ≤ n) && decide (n < 0xDC00)) = false := by simp; omega
  have hlow : (decide (0xDC00 ≤ n) && decide (n < 0xE000)) = false := by simp; omega
  unfold numberedEscape
  rw [if_neg (Bool.not_eq_true _ ▸ hhigh), if_neg (Bool.not_eq_true _ ▸ hlow)]

section Escapes
variable {c : Char} (fuel : Nat) (read rest : List Char)

theorem stringRest?_control (hc : c.toNat < 32) :
    stringRest? (fuel + 1) read ('\\' :: 'u' :: (Text.hex 4 c.toNat ++ rest)) =
      stringRest? fuel (c :: read) rest := by
  rw [stringRest?, if_neg (by decide), if_pos rfl]
  dsimp only
  rw [hex4?_hex hc]
  dsimp only
  rw [numberedEscape_control hc, Char.ofNat_toNat]

theorem stringRest?_plain (hquote : c ≠ '"') (hslash : c ≠ '\\') (hc : ¬ c.toNat < 32) :
    stringRest? (fuel + 1) read (c :: rest) = stringRest? fuel (c :: read) rest := by
  show (if c = '"' then _ else if c = '\\' then _ else if c.toNat < 32 then _ else
    stringRest? fuel (c :: read) rest) = _
  rw [if_neg hquote, if_neg hslash, if_neg hc]

/-- A character is read back from its escape in one step. -/
theorem stringRest?_escapeChar (c : Char) :
    stringRest? (fuel + 1) read (escapeChar c ++ rest) = stringRest? fuel (c :: read) rest := by
  fun_cases escapeChar c with
  | case1 hc =>
    subst hc
    rfl
  | case2 _ hc =>
    subst hc
    rfl
  | case3 _ _ hc =>
    subst hc
    rfl
  | case4 _ _ _ hc =>
    subst hc
    rfl
  | case5 _ _ _ _ hc =>
    subst hc
    rfl
  | case6 _ _ _ _ _ hback =>
    have hc : c = Char.ofNat 8 := by rw [← hback, Char.ofNat_toNat]
    subst hc
    rfl
  | case7 _ _ _ _ _ _ hfeed =>
    have hc : c = Char.ofNat 12 := by rw [← hfeed, Char.ofNat_toNat]
    subst hc
    rfl
  | case8 _ _ _ _ _ _ _ hcontrol => exact stringRest?_control fuel read rest hcontrol
  | case9 hquote hslash _ _ _ _ _ hcontrol =>
    exact stringRest?_plain fuel read rest hquote hslash hcontrol

end Escapes

theorem length_escapeChar (c : Char) : 1 ≤ (escapeChar c).length := by
  fun_cases escapeChar c <;> simp

/-- A string is read back whatever its characters are. -/
theorem stringRest?_escaped (cs read rest : List Char) (fuel : Nat)
    (hfuel : (cs.flatMap escapeChar).length < fuel) :
    stringRest? fuel read (cs.flatMap escapeChar ++ '"' :: rest) =
      some (String.ofList (read.reverse ++ cs), rest) := by
  induction cs generalizing read fuel with
  | nil =>
    obtain ⟨fuel, rfl⟩ := Nat.exists_eq_succ_of_ne_zero (Nat.ne_of_gt hfuel)
    rw [List.append_nil]
    rfl
  | cons c cs ih =>
    have hlength := length_escapeChar c
    rw [List.flatMap_cons, List.length_append] at hfuel
    obtain ⟨fuel, rfl⟩ := Nat.exists_eq_add_of_le' (show 1 ≤ fuel by omega)
    rw [List.flatMap_cons, List.append_assoc, stringRest?_escapeChar, ih _ _ (by omega),
      List.reverse_cons, List.append_assoc, List.singleton_append]

/-! ## Parts and what stands between them -/

theorem skipSpace_cons {c : Char} (hc : isSpace c = false) (cs : List Char) :
    skipSpace (c :: cs) = c :: cs :=
  Text.dropWhile_of_head (by rintro d ⟨⟩; exact hc)

/-- Further parts of a collection, each behind a comma and a blank. -/
def further (parts : List String) : List Char :=
  parts.flatMap fun part => ',' :: ' ' :: part.toList

theorem further_cons (part : String) (parts : List String) :
    further (part :: parts) = ',' :: ' ' :: (part.toList ++ further parts) := rfl

theorem toList_intercalate_cons (part : String) (parts : List String) :
    (", ".intercalate (part :: parts)).toList = part.toList ++ further parts := by
  rw [String.toList_intercalate]
  induction parts generalizing part with
  | nil => simp [further]
  | cons next parts ih =>
    rw [List.map_cons, List.map_cons, List.intercalate_cons_cons, ← List.map_cons, ih,
      further_cons, String.toList_ofList, List.append_assoc]
    rfl

theorem toList_enclosed (opening closing part : String) (parts : List String) :
    (Value.enclosed opening closing (part :: parts)).toList =
      opening.toList ++ (part.toList ++ (further parts ++ closing.toList)) := by
  rw [Value.enclosed, String.toList_append, String.toList_append, toList_intercalate_cons]
  simp only [List.append_assoc]

section Parts
variable {α β γ : Type} {read? : Nat → β → List Char → Option (γ × List Char)} {close : Char}
  {text : α → String} {take : β → α → β} {done : β → γ}

/-- A reader of the parts of a collection takes a part up, and goes on behind a comma or comes to
an end with the bracket. -/
structure TakesUp (read? : Nat → β → List Char → Option (γ × List Char)) (close : Char)
    (text : α → String) (take : β → α → β) (done : β → γ) (a : α) : Prop where
  settled : ∀ rest, skipSpace ((text a).toList ++ rest) = (text a).toList ++ rest
  next : ∀ fuel read rest, (text a).toList.length ≤ fuel →
    read? (fuel + 1) read ((text a).toList ++ ',' :: rest) =
      read? fuel (take read a) (skipSpace rest)
  last : ∀ fuel read rest, (text a).toList.length ≤ fuel →
    read? (fuel + 1) read ((text a).toList ++ close :: rest) = some (done (take read a), rest)

/-- Such a reader takes all parts up, in order. -/
theorem read_parts {a : α} {as : List α} (ha : TakesUp read? close text take done a)
    (has : ∀ b ∈ as, TakesUp read? close text take done b) (read : β) (rest : List Char)
    (fuel : Nat) (hfuel : ((text a).toList ++ further (as.map text)).length < fuel) :
    read? fuel read ((text a).toList ++ (further (as.map text) ++ close :: rest)) =
      some (done ((a :: as).foldl take read), rest) := by
  obtain ⟨fuel, rfl⟩ := Nat.exists_eq_add_of_le' (Nat.one_le_of_lt hfuel)
  rw [List.length_append] at hfuel
  -- every part costs one unit of fuel and is longer than that with its comma
  induction as generalizing a read fuel with
  | nil => exact ha.last fuel read rest (by omega)
  | cons b as ih =>
    have hb := has b List.mem_cons_self
    have hlater : ∀ c ∈ as, TakesUp read? close text take done c :=
      fun c hc => has c (List.mem_cons_of_mem _ hc)
    rw [List.map_cons, further_cons, List.length_cons, List.length_cons, List.length_append]
      at hfuel
    obtain ⟨fuel, rfl⟩ := Nat.exists_eq_add_of_le' (show 1 ≤ fuel by omega)
    rw [List.map_cons, further_cons, List.cons_append, ha.next _ _ _ (by omega)]
    show read? (fuel + 1) (take read a)
      (skipSpace ((text b).toList ++ further (as.map text) ++ close :: rest)) = _
    rw [List.append_assoc, hb.settled]
    exact ih hb hlater (take read a) fuel (by omega)

end Parts

/-! ## Values that are read back -/

/-- The text of a value is read back, whatever stands behind it. -/
structure ReadsBack (v : Value) : Prop where
  starts : ∃ c cs, (write v).toList = c :: cs ∧ isSpace c = false ∧ c ≠ ']'
  reads : ∀ fuel rest, (write v).toList.length ≤ fuel →
    value? fuel ((write v).toList ++ rest) = some (v, rest)

theorem ReadsBack.settled {v : Value} (hv : ReadsBack v) (rest : List Char) :
    skipSpace ((write v).toList ++ rest) = (write v).toList ++ rest := by
  obtain ⟨c, cs, hstarts, hc, -⟩ := hv.starts
  rw [hstarts]
  exact skipSpace_cons hc _

theorem toList_string (s : String) :
    (string s).toList = '"' :: (s.toList.flatMap escapeChar ++ ['"']) :=
  String.toList_ofList

theorem stringRest?_string (s : String) (rest : List Char) :
    stringRest? ((s.toList.flatMap escapeChar ++ '"' :: rest).length + 1) []
      (s.toList.flatMap escapeChar ++ '"' :: rest) = some (s, rest) := by
  rw [stringRest?_escaped _ _ _ _ (by rw [List.length_append]; omega), List.reverse_nil,
    List.nil_append, String.ofList_toList]

theorem readsBack_text (s : String) : ReadsBack (.text s) where
  starts := ⟨'"', _, toList_string s, rfl, by decide⟩
  reads := by
    intro fuel rest hfuel
    rw [write, toList_string] at hfuel ⊢
    obtain ⟨fuel, rfl⟩ := Nat.exists_eq_add_of_le' (Nat.le_of_add_left_le hfuel)
    rw [List.cons_append, List.append_assoc, List.singleton_append, value?, stringRest?_string]
    rfl

section Lists
variable {v : Value} {vs : List Value}

theorem writeItems_eq_map (vs : List Value) : writeItems vs = vs.map write := by
  induction vs with
  | nil => rfl
  | cons v vs ih => rw [writeItems, ih, List.map_cons]

theorem toList_write_list :
    (write (.list (v :: vs))).toList =
      '[' :: ((write v).toList ++ (further (vs.map write) ++ [']'])) := by
  have hopening : "[".toList = ['['] := rfl
  have hclosing : "]".toList = [']'] := rfl
  rw [write, writeItems_eq_map, List.map_cons, toList_enclosed, hopening, hclosing,
    List.singleton_append]

theorem takesUp_item (hv : ReadsBack v) :
    TakesUp items? ']' write (fun read v => v :: read) List.reverse v where
  settled := hv.settled
  next := by
    intro fuel read rest hfuel
    rw [items?, hv.settled, hv.reads fuel _ hfuel]
    rfl
  last := by
    intro fuel read rest hfuel
    rw [items?, hv.settled, hv.reads fuel _ hfuel]
    rfl

theorem value?_list {c : Char} (hc : isSpace c = false) (hclose : c ≠ ']') (fuel : Nat)
    (cs : List Char) :
    value? (fuel + 1) ('[' :: c :: cs) =
      (items? fuel [] (c :: cs)).map fun p => (.list p.1, p.2) := by
  rw [value?, skipSpace_cons hc]
  split
  · rename_i hinside
    cases hinside
    exact absurd rfl hclose
  · rfl

theorem readsBack_list (hvs : ∀ v ∈ vs, ReadsBack v) : ReadsBack (.list vs) := by
  cases vs with
  | nil =>
    refine ⟨⟨'[', [']'], rfl, rfl, by decide⟩, fun fuel rest hfuel => ?_⟩
    obtain ⟨fuel, rfl⟩ := Nat.exists_eq_add_of_le' hfuel
    rfl
  | cons v vs =>
    have hv := hvs v List.mem_cons_self
    refine ⟨⟨'[', _, toList_write_list, rfl, by decide⟩, fun fuel rest hfuel => ?_⟩
    rw [toList_write_list] at hfuel ⊢
    obtain ⟨fuel, rfl⟩ := Nat.exists_eq_add_of_le' (Nat.le_of_add_left_le hfuel)
    have hread := read_parts (takesUp_item hv)
      (fun u hu => takesUp_item (hvs u (List.mem_cons_of_mem _ hu))) [] rest fuel
      (by simp at hfuel ⊢; omega)
    -- the first item is no closing bracket, so the list is not taken for an empty one
    obtain ⟨c, cs, hstarts, hc, hclose⟩ := hv.starts
    rw [hstarts] at hread ⊢
    simp only [List.cons_append, List.append_assoc, List.nil_append] at hread ⊢
    rw [value?_list hc hclose, hread]
    simp

end Lists

section Records
variable {e : String × Value} {es : List (String × Value)}

/-- The text of an entry. -/
def writeEntry (e : String × Value) : String := string e.1 ++ ": " ++ write e.2

theorem writeEntries_eq_map (es : List (String × Value)) :
    writeEntries (es.map fun e => (.text e.1, e.2)) = es.map writeEntry := by
  induction es with
  | nil => rfl
  | cons e es ih =>
    rw [List.map_cons, writeEntries, ih, List.map_cons]
    rfl

theorem toList_writeEntry (e : String × Value) (rest : List Char) :
    (writeEntry e).toList ++ rest =
      '"' :: (e.1.toList.flatMap escapeChar ++
        '"' :: ':' :: ' ' :: ((write e.2).toList ++ rest)) := by
  rw [writeEntry, String.toList_append, String.toList_append, toList_string]
  simp

theorem toList_write_record :
    (write (.record (e :: es))).toList =
      '\x7b' :: ((writeEntry e).toList ++ (further (es.map writeEntry) ++ ['\x7d'])) := by
  have hopening : "\x7b".toList = ['\x7b'] := rfl
  have hclosing : "\x7d".toList = ['\x7d'] := rfl
  rw [Value.record, write, writeEntries_eq_map, List.map_cons, toList_enclosed, hopening, hclosing,
    List.singleton_append]

theorem value?_entry (he : ReadsBack e.2) {fuel : Nat}
    (hfuel : (writeEntry e).toList.length ≤ fuel) (rest : List Char) :
    value? fuel (skipSpace (' ' :: ((write e.2).toList ++ rest))) = some (e.2, rest) := by
  have hvalue : (write e.2).toList.length ≤ fuel := by
    rw [writeEntry, String.toList_append, List.length_append] at hfuel
    omega
  have hblank : skipSpace (' ' :: ((write e.2).toList ++ rest)) = (write e.2).toList ++ rest :=
    he.settled rest
  rw [hblank, he.reads fuel rest hvalue]

theorem takesUp_entry (he : ReadsBack e.2) :
    TakesUp entries? '\x7d' writeEntry (fun read e => Mapping.insert read (.text e.1) e.2) id e
    where
  settled := by
    intro rest
    rw [toList_writeEntry]
    exact skipSpace_cons rfl _
  next := by
    intro fuel read rest hfuel
    have hcolon : isSpace ':' = false := rfl
    rw [toList_writeEntry, entries?, stringRest?_string]
    simp only [skipSpace_cons hcolon, value?_entry he hfuel]
    rfl
  last := by
    intro fuel read rest hfuel
    have hcolon : isSpace ':' = false := rfl
    rw [toList_writeEntry, entries?, stringRest?_string]
    simp only [skipSpace_cons hcolon, value?_entry he hfuel]
    rfl

theorem insert_new {fields : List (String × Value)} (hnew : e.1 ∉ fields.map Prod.fst) :
    Mapping.insert (fields.map fun f => (.text f.1, f.2)) (.text e.1) e.2 =
      (fields ++ [e]).map fun f => (.text f.1, f.2) := by
  induction fields with
  | nil => rfl
  | cons f fields ih =>
    rw [List.map_cons, List.mem_cons, not_or] at hnew
    have hkey : ¬ (Value.text f.1).sameKey (.text e.1) = true := fun hsame =>
      hnew.1 (beq_iff_eq.1 hsame).symm
    rw [List.map_cons, Mapping.insert, if_neg hkey, ih hnew.2]
    rfl

/-- Entries whose keys differ keep their places. -/
theorem foldl_insert_new (fields : List (String × Value))
    (hkeys : ((fields ++ es).map Prod.fst).Nodup) :
    es.foldl (fun read e => Mapping.insert read (.text e.1) e.2)
        (fields.map fun f => (.text f.1, f.2)) =
      (fields ++ es).map fun f => (.text f.1, f.2) := by
  induction es generalizing fields with
  | nil => rw [List.append_nil, List.foldl_nil]
  | cons e es ih =>
    rw [List.append_cons] at hkeys ⊢
    have hnew : e.1 ∉ fields.map Prod.fst := by
      have hbefore := hkeys
      rw [List.map_append, List.map_append] at hbefore
      exact (List.nodup_cons.1 (List.nodup_append_comm.1 hbefore.of_append_left)).1
    rw [List.foldl_cons, insert_new hnew, ih _ hkeys]

theorem value?_record (fuel : Nat) (cs : List Char) :
    value? (fuel + 1) ('\x7b' :: '"' :: cs) =
      (entries? fuel [] ('"' :: cs)).map fun p => (.mapping p.1, p.2) := rfl

theorem readsBack_record (hes : ∀ e ∈ es, ReadsBack e.2) (hkeys : (es.map Prod.fst).Nodup) :
    ReadsBack (.record es) := by
  cases es with
  | nil =>
    refine ⟨⟨'\x7b', ['\x7d'], rfl, rfl, by decide⟩, fun fuel rest hfuel => ?_⟩
    obtain ⟨fuel, rfl⟩ := Nat.exists_eq_add_of_le' hfuel
    rfl
  | cons e es =>
    refine ⟨⟨'\x7b', _, toList_write_record, rfl, by decide⟩, fun fuel rest hfuel => ?_⟩
    rw [toList_write_record] at hfuel ⊢
    obtain ⟨fuel, rfl⟩ := Nat.exists_eq_add_of_le' (Nat.le_of_add_left_le hfuel)
    have hread := read_parts (takesUp_entry (hes e List.mem_cons_self))
      (fun f hf => takesUp_entry (hes f (List.mem_cons_of_mem _ hf))) [] rest fuel
      (by simp at hfuel ⊢; omega)
    have hinserted : (e :: es).foldl (fun read e => Mapping.insert read (.text e.1) e.2) [] =
        (e :: es).map fun f => (.text f.1, f.2) :=
      foldl_insert_new [] hkeys
    rw [hinserted] at hread
    simp only [List.cons_append, List.append_assoc, List.nil_append] at hread ⊢
    rw [toList_writeEntry] at hread ⊢
    rw [value?_record, hread]
    rfl

end Records

/-- A text that holds such a value is read as that value. -/
theorem read?_write {v : Value} (hv : ReadsBack v) : read? (write v) = some v := by
  have hread := hv.reads ((write v).toList.length + 1) [] (Nat.le_succ _)
  have hsettled := hv.settled []
  rw [List.append_nil] at hread hsettled
  simp only [read?]
  rw [hsettled, hread]
  rfl

end BrowserFlow.Json
