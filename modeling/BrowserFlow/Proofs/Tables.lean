import BrowserFlow.Page.Table
import BrowserFlow.Proofs.Occurrences
import BrowserFlow.Text.Digit
import Mathlib.Data.List.Nodup
import Mathlib.Data.List.Forall2

/-!
What the records of a table keep of its cells. A record has one entry for each name, so of the
cells whose columns have one name it keeps the last.

* `Table.Heads`: the name of a column.
* `Table.Keeps`: what a record keeps of its row.
* `Table.records_keepLast`: every row has such a record, and where the names of its columns differ
  the record has all of the row.
* `Table.not_every_cell_kept`: a table with one header twice.
-/
namespace BrowserFlow.Table
set_option autoImplicit false

/-! ## The names of columns -/

/-- The name of a column: its header without blanks around it, or its number where that is no
text. -/
inductive Heads (headers : List Value) (i : Nat) : String → Prop
  | own {h : Value} : headers[i]? = some h → cellText h ≠ "" → Heads headers i (cellText h)
  | numbered : (∀ h ∈ headers[i]?, cellText h = "") →
      Heads headers i ("col" ++ toString (i + 1))

def name (headers : List Value) (i : Nat) : String := columnName (headers.map cellText) i

/-- The names of the first columns, from the left. -/
def columns (headers : List Value) (n : Nat) : List String := (List.range n).map (name headers)

section Names
variable {headers : List Value}

theorem name_own {i : Nat} {h : Value} (hi : headers[i]? = some h) (hne : cellText h ≠ "") :
    name headers i = cellText h := by
  have hget : (headers.map cellText)[i]? = some (cellText h) := by
    rw [List.getElem?_map, hi]
    rfl
  unfold name columnName
  rw [hget]
  split
  · rename_i hnone
    cases hnone
  · rename_i hempty
    exact absurd (Option.some.inj hempty) hne
  · rename_i hsome
    exact (Option.some.inj hsome).symm

theorem name_numbered {i : Nat} (hi : ∀ h ∈ headers[i]?, cellText h = "") :
    name headers i = "col" ++ toString (i + 1) := by
  have hget : (headers.map cellText)[i]? = none ∨ (headers.map cellText)[i]? = some "" := by
    rw [List.getElem?_map]
    cases hh : headers[i]? with
    | none => exact .inl rfl
    | some h => exact .inr (congrArg some (hi h hh))
  unfold name columnName
  obtain hget | hget := hget
  · rw [hget]
  · rw [hget]
    rfl

theorem name_cases (headers : List Value) (i : Nat) :
    (∃ h, headers[i]? = some h ∧ cellText h ≠ "" ∧ name headers i = cellText h) ∨
      (∀ h ∈ headers[i]?, cellText h = "") ∧ name headers i = "col" ++ toString (i + 1) := by
  by_cases hi : ∀ h ∈ headers[i]?, cellText h = ""
  · exact .inr ⟨hi, name_numbered hi⟩
  · simp only [not_forall] at hi
    obtain ⟨h, hget, hne⟩ := hi
    exact .inl ⟨h, hget, hne, name_own hget hne⟩

/-- Every column has one name. -/
theorem heads_iff {i : Nat} {n : String} : Heads headers i n ↔ n = name headers i := by
  constructor
  · intro hn
    cases hn with
    | own hi hne => exact (name_own hi hne).symm
    | numbered hi => exact (name_numbered hi).symm
  · rintro rfl
    obtain ⟨h, hget, hne, hname⟩ | ⟨hnone, hname⟩ := name_cases headers i
    · rw [hname]
      exact .own hget hne
    · rw [hname]
      exact .numbered hnone

theorem columns_succ (n : Nat) :
    columns headers (n + 1) = columns headers n ++ [name headers n] := by
  rw [columns, List.range_succ, List.map_append]
  rfl

/-- Headers that differ from each other and from the names that columns without a header get. -/
structure Apart (headers : List Value) (n : Nat) : Prop where
  own : ∀ i j h h', i < j → j < n → headers[i]? = some h → headers[j]? = some h' →
    cellText h ≠ "" → cellText h ≠ cellText h'
  numbered : ∀ i j h, i < n → j < n → (∀ g ∈ headers[i]?, cellText g = "") →
    headers[j]? = some h → cellText h ≠ "col" ++ toString (i + 1)

theorem Apart.name_ne {n : Nat} (ha : Apart headers n) {i j : Nat} (hij : i < j) (hj : j < n) :
    name headers i ≠ name headers j := by
  have hi : i < n := by omega
  obtain ⟨h, hget, hne, hname⟩ | ⟨hnone, hname⟩ := name_cases headers i
  · obtain ⟨h', hget', -, hname'⟩ | ⟨hnone', hname'⟩ := name_cases headers j
    · rw [hname, hname']
      exact ha.own i j h h' hij hj hget hget' hne
    · rw [hname, hname']
      exact ha.numbered j i h hj hi hnone' hget
  · obtain ⟨h', hget', -, hname'⟩ | ⟨hnone', hname'⟩ := name_cases headers j
    · rw [hname, hname']
      exact (ha.numbered i j h' hi hj hnone hget').symm
    · rw [hname, hname']
      intro hsame
      have hnumbers := Text.toString_injective ((String.append_right_inj "col").1 hsame)
      omega

theorem Apart.columns_nodup {n : Nat} (ha : Apart headers n) : (columns headers n).Nodup := by
  refine List.nodup_range.map_on fun i hi j hj hsame => ?_
  rw [List.mem_range] at hi hj
  by_contra hne
  obtain hij | hji := Nat.lt_or_gt_of_ne hne
  · exact ha.name_ne hij hj hsame
  · exact ha.name_ne hji hi hsame.symm

end Names

/-! ## The record of a row -/

/-- The record of a row. -/
def recordOf (headers row : List Value) : Record := rowFrom (headers.map cellText) 0 [] row

theorem rowFrom_concat (headers : List String) (position : Nat) (record : Record)
    (cells : List Value) (cell : Value) :
    rowFrom headers position record (cells ++ [cell]) =
      (rowFrom headers position record cells).put (columnName headers (position + cells.length))
        (cellText cell) := by
  induction cells generalizing position record with
  | nil => rfl
  | cons c cells ih =>
    have hplace : position + 1 + cells.length = position + (c :: cells).length := by
      rw [List.length_cons]
      omega
    rw [List.cons_append, rowFrom, rowFrom, ih, hplace]

section Rows
variable {headers : List Value}

theorem recordOf_concat (row : List Value) (cell : Value) :
    recordOf headers (row ++ [cell]) =
      (recordOf headers row).put (name headers row.length) (cellText cell) := by
  rw [recordOf, rowFrom_concat, Nat.zero_add]
  rfl

theorem names_recordOf (row : List Value) :
    (recordOf headers row).map Prod.fst = (columns headers row.length).eraseDups := by
  induction row using List.reverseRecOn with
  | nil => rfl
  | append_singleton row cell ih =>
    rw [recordOf_concat, Dictionary.map_fst_put, ih, List.length_append, List.length_singleton,
      columns_succ, eraseDups_concat]
    simp only [List.mem_eraseDups]

theorem mem_names_recordOf {row : List Value} {s : String} :
    s ∈ (recordOf headers row).map Prod.fst ↔ s ∈ columns headers row.length := by
  rw [names_recordOf, List.mem_eraseDups]

theorem nodup_names (row : List Value) : ((recordOf headers row).map Prod.fst).Nodup := by
  induction row using List.reverseRecOn with
  | nil => exact List.nodup_nil
  | append_singleton row cell ih =>
    rw [recordOf_concat, Dictionary.map_fst_put]
    split
    · exact ih
    · rename_i hnew
      exact List.nodup_append_comm.1 (List.nodup_cons.2 ⟨hnew, ih⟩)

/-- The last cell under a name stands in the record. -/
theorem lookup_recordOf (row : List Value) (i : Nat) (hi : i < row.length)
    (hlast : ∀ j, i < j → j < row.length → name headers j ≠ name headers i) :
    (recordOf headers row).lookup (name headers i) = some (cellText row[i]) := by
  induction row using List.reverseRecOn with
  | nil => cases hi
  | append_singleton row cell ih =>
    rw [recordOf_concat]
    rw [List.length_append, List.length_singleton] at hi hlast
    by_cases hend : i = row.length
    · subst hend
      rw [Dictionary.lookup_put, if_pos rfl, List.getElem_concat_length rfl]
    · have hinside : i < row.length := by omega
      have hne : name headers i ≠ name headers row.length :=
        (hlast row.length hinside (by omega)).symm
      rw [Dictionary.lookup_put, if_neg hne, List.getElem_append_left hinside]
      exact ih hinside fun j hij hj => hlast j hij (by omega)

theorem recordOf_eq_mapIdx (row : List Value) (hn : (columns headers row.length).Nodup) :
    recordOf headers row = row.mapIdx fun i cell => (name headers i, cellText cell) := by
  induction row using List.reverseRecOn with
  | nil => rfl
  | append_singleton row cell ih =>
    rw [List.length_append, List.length_singleton, columns_succ] at hn
    have hnew : name headers row.length ∉ columns headers row.length :=
      (List.nodup_cons.1 (List.nodup_append_comm.1 hn)).1
    have hbefore := ih (List.nodup_append.1 hn).1
    rw [recordOf_concat, Dictionary.put_of_notMem _ (mt mem_names_recordOf.1 hnew), hbefore,
      List.mapIdx_concat]

theorem length_recordOf (row : List Value) : (recordOf headers row).length ≤ row.length := by
  induction row using List.reverseRecOn with
  | nil => exact Nat.le_refl 0
  | append_singleton row cell ih =>
    rw [recordOf_concat, Dictionary.length_put, List.length_append, List.length_singleton]
    split <;> omega

/-- No cell is lost exactly where the names differ. -/
theorem length_recordOf_eq (row : List Value) :
    (recordOf headers row).length = row.length ↔ (columns headers row.length).Nodup := by
  induction row using List.reverseRecOn with
  | nil => exact iff_of_true rfl List.nodup_nil
  | append_singleton row cell ih =>
    have hle : (recordOf headers row).length ≤ row.length := length_recordOf row
    have hnodup : (columns headers row.length ++ [name headers row.length]).Nodup ↔
        name headers row.length ∉ columns headers row.length ∧
          (columns headers row.length).Nodup :=
      List.nodup_append_comm.trans List.nodup_cons
    rw [recordOf_concat, Dictionary.length_put, List.length_append, List.length_singleton,
      columns_succ, hnodup, ← ih]
    simp only [mem_names_recordOf]
    split
    · rename_i hmem
      exact iff_of_false (by omega) fun hboth => hboth.1 hmem
    · rename_i hnew
      exact ⟨fun hlength => ⟨hnew, by omega⟩, fun hboth => by omega⟩

end Rows

/-! ## What the records keep -/

/-- What a record keeps of its row: one entry for each name, in the order in which the names come
first, with the last cell under the name; and where the names differ, the whole row. -/
structure Keeps (headers row : List Value) (record : Record) : Prop where
  names : record.map Prod.fst = (columns headers row.length).eraseDups
  last : ∀ i (hi : i < row.length),
    (∀ j, i < j → j < row.length → name headers j ≠ name headers i) →
    record.lookup (name headers i) = some (cellText row[i])
  whole : (columns headers row.length).Nodup →
    record = row.mapIdx fun i cell => (name headers i, cellText cell)
  length : record.length = row.length ↔ (columns headers row.length).Nodup

theorem recordOf_keeps (headers row : List Value) : Keeps headers row (recordOf headers row) where
  names := names_recordOf row
  last := lookup_recordOf row
  whole := recordOf_eq_mapIdx row
  length := length_recordOf_eq row

/-- There is one record for every row, in order. A cell is lost where a later cell of its row has a
column of the same name, and nowhere else; no two columns have one name where the headers are
apart. -/
theorem records_keepLast (headers : List Value) (rows : List (List Value)) :
    (∀ i n, Heads headers i n ↔ n = name headers i) ∧
    List.Forall₂ (Keeps headers) rows (records headers rows) ∧
    ∀ n, Apart headers n → (columns headers n).Nodup := by
  refine ⟨fun i n => heads_iff, ?_, fun n ha => ha.columns_nodup⟩
  show List.Forall₂ (Keeps headers) rows (rows.map (recordOf headers))
  rw [List.forall₂_map_right_iff, List.forall₂_same]
  exact fun row _ => recordOf_keeps headers row

def repeated : List Value := [.text "A", .text "A"]

theorem not_every_cell_kept :
    ¬ ∀ (headers : List Value) (rows : List (List Value)),
      List.Forall₂ (fun row record => record.length = row.length ∧
        ∀ i (hi : i < row.length), (name headers i, cellText row[i]) ∈ record)
        rows (records headers rows) := by
  intro hall
  have hrecords : records repeated [[.text "1", .text "2"]] = [[("A", "2")]] := by decide
  have htable := hall repeated [[.text "1", .text "2"]]
  rw [hrecords] at htable
  have hlength := (List.forall₂_cons.1 htable).1.1
  cases hlength

end BrowserFlow.Table
