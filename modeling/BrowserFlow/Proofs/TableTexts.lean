import BrowserFlow.Browser.Live
import BrowserFlow.Proofs.Frames
import BrowserFlow.Proofs.JsonTexts
import BrowserFlow.Proofs.Tables

/-!
The text that is kept of a table. It is read back as the records of the table, whatever the headers
and cells are, and it is the text that the variable of a reading holds.

* `Table.readsBack_toValue`: records whose names differ are read back.
* `Table.write?_table`: the write that the answer with a table asks for.
* `Table.text_readsBack`: the text of every table is read back as its records, from the variable
  as well.
-/
namespace BrowserFlow.Table
set_option autoImplicit false

/-! ## The text -/

theorem readsBack_toValue {rs : List Record} (hnames : ∀ r ∈ rs, (r.map Prod.fst).Nodup) :
    Json.ReadsBack (toValue rs) := by
  refine Json.readsBack_list fun v hv => ?_
  obtain ⟨r, hr, rfl⟩ := List.mem_map.1 hv
  refine Json.readsBack_record (fun e he => ?_) ?_
  · obtain ⟨cell, -, rfl⟩ := List.mem_map.1 he
    exact Json.readsBack_text cell.2
  · rw [List.map_map]
    exact hnames r hr

theorem read?_encodeRecords (headers : List Value) (rows : List (List Value)) :
    Json.read? (encodeRecords (records headers rows)) = some (toValue (records headers rows)) := by
  refine Json.read?_write (readsBack_toValue fun r hr => ?_)
  obtain ⟨row, -, rfl⟩ := List.mem_map.1 hr
  exact nodup_names row

theorem toValue_injective : Function.Injective toValue := by
  have hentry : Function.Injective fun e : String × String => (e.1, Value.text e.2) := by
    intro e e' hsame
    obtain ⟨hname, hcell⟩ := Prod.mk.inj hsame
    exact Prod.ext hname (Value.text.inj hcell)
  have hfield : Function.Injective fun f : String × Value => (Value.text f.1, f.2) := by
    intro f f' hsame
    obtain ⟨hname, hvalue⟩ := Prod.mk.inj hsame
    exact Prod.ext (Value.text.inj hname) hvalue
  have hrecord : Function.Injective fun r : Record =>
      Value.record (r.map fun e => (e.1, .text e.2)) := by
    intro r r' hsame
    exact hentry.list_map (hfield.list_map (Value.mapping.inj hsame))
  intro rs rs' hsame
  exact hrecord.list_map (Value.list.inj hsame)

/-! ## The variable -/

theorem unwritableItem?_of_all {vs : List Value} (hvs : ∀ v ∈ vs, unwritable? v = none) :
    unwritableItem? vs = none := by
  induction vs with
  | nil => rfl
  | cons v vs ih =>
    rw [unwritableItem?, hvs v List.mem_cons_self,
      ih fun u hu => hvs u (List.mem_cons_of_mem _ hu)]
    rfl

theorem unwritableField?_of_all {es : List (Value × Value)}
    (hes : ∀ e ∈ es, unwritable? e.2 = none) : unwritableField? es = none := by
  induction es with
  | nil => rfl
  | cons e es ih =>
    rw [unwritableField?, hes e List.mem_cons_self,
      ih fun f hf => hes f (List.mem_cons_of_mem _ hf)]
    rfl

/-- A table is always writable. -/
theorem kept_table (rs : List Record) :
    Dispatch.kept .readTable (toValue rs) = .ok (.text (encodeRecords rs)) := by
  have hwritable : unwritableItem? (rs.map fun r =>
      Value.record (r.map fun e => (e.1, .text e.2))) = none := by
    refine unwritableItem?_of_all fun v hv => ?_
    obtain ⟨r, -, rfl⟩ := List.mem_map.1 hv
    refine unwritableField?_of_all fun f hf => ?_
    rw [List.map_map] at hf
    obtain ⟨e, -, rfl⟩ := List.mem_map.1 hf
    rfl
  show (encode _).map Value.text = _
  rw [encode, hwritable]
  rfl

/-- The data of a page's answer show a table. -/
structure Shows (data : Mapping) (headers : List Value) (rows : List (List Value)) : Prop where
  headers : Mapping.named data "headers" = .list headers
  rows : Mapping.named data "rows" = .list (rows.map .list)

theorem mapM_items (rows : List (List Value)) :
    (rows.map Value.list).mapM Value.items = .ok rows := by
  induction rows with
  | nil => rfl
  | cons row rows ih =>
    rw [List.map_cons, List.mapM_cons, ih]
    rfl

theorem recordsOfValues_lists (headers : List Value) (rows : List (List Value)) :
    recordsOfValues (.list headers) (.list (rows.map .list)) = .ok (records headers rows) := by
  cases headers <;>
  · show ((rows.map Value.list).mapM Value.items).bind _ = _
    rw [mapM_items]
    rfl

theorem finish_table {r : PageResult} {data : Mapping} {headers : List Value}
    {rows : List (List Value)} (herror : r.error.isTruthy = false) (hdata : r.data = .mapping data)
    (hshows : Shows data headers rows) (params : Mapping) :
    LiveBrowser.finish .readTable params r =
      .ok { r with data := toValue (records headers rows) } := by
  have hrows : (if (Value.list (rows.map .list)).isTruthy then Value.list (rows.map .list)
      else .list []) = .list (rows.map .list) := by
    cases rows <;> rfl
  unfold LiveBrowser.finish
  rw [if_neg (by rw [herror]; exact Bool.false_ne_true), hdata]
  show (recordsOfValues (Mapping.named data "headers") (if (Mapping.named data "rows").isTruthy then
    Mapping.named data "rows" else .list [])).map _ = _
  rw [hshows.headers, hshows.rows, hrows, recordsOfValues_lists]
  rfl

theorem write?_table {params : Mapping} {r : PageResult} {rs : List Record}
    (htarget : (Mapping.named params "variable").isTruthy = true)
    (hname : Variables.targetName (Mapping.named params "variable") ≠ "")
    (hr : r.hasData = true) (hdata : r.data = toValue rs) :
    Dispatch.write? .readTable params r =
      .ok (some (Variables.targetName (Mapping.named params "variable"),
        .text (encodeRecords rs))) := by
  unfold Dispatch.write?
  rw [if_pos hr, hdata, kept_table]
  show Except.ok (if (Mapping.named params "variable").isTruthy then _ else _) = _
  rw [if_pos htarget, Variables.write?, if_neg hname]

/-- The text of every table is read back as its records: a table without rows has the text of no
records, and tables with one text have the same records. When a reading of the table names a
variable, that is the text the variable holds. -/
theorem text_readsBack (headers : List Value) (rows : List (List Value)) :
    Json.read? (encodeRecords (records headers rows)) = some (toValue (records headers rows)) ∧
    (rows = [] → encodeRecords (records headers rows) = "[]") ∧
    (∀ rs, toValue rs = toValue (records headers rows) → rs = records headers rows) ∧
    ∀ (params data : Mapping) (r : PageResult) (s : Store),
      (Mapping.named params "variable").isTruthy = true →
      Variables.targetName (Mapping.named params "variable") ≠ "" →
      r.error.isTruthy = false → r.hasData = true → r.data = .mapping data →
      Shows data headers rows →
      ∃ w,
        (LiveBrowser.finish .readTable params r).bind (Dispatch.write? .readTable params) = .ok w ∧
        (s.apply w).get? (Variables.targetName (Mapping.named params "variable")) =
          some (.text (encodeRecords (records headers rows))) := by
  refine ⟨read?_encodeRecords headers rows, ?_, fun rs hsame => toValue_injective hsame, ?_⟩
  · rintro rfl
    rfl
  · intro params data r s htarget hname herror hr hdata hshows
    refine ⟨_, ?_, s.get?_apply_self rfl⟩
    rw [finish_table herror hdata hshows]
    exact write?_table htarget hname hr rfl

def shown : Mapping :=
  [(.text "headers", .list [.text "A"]), (.text "rows", .list [.list [.text "\"1\"", .null]])]

theorem text_readsBack_shown :
    ∃ w, (LiveBrowser.finish .readTable [(.text "variable", .text "*t")]
        (.ofData (.mapping shown))).bind
          (Dispatch.write? .readTable [(.text "variable", .text "*t")]) = .ok w ∧
      (Store.apply [] w).get? "t" =
        some (.text "[\x7b\"A\": \"\\\"1\\\"\", \"col2\": \"\"\x7d]") :=
  (text_readsBack [.text "A"] [[.text "\"1\"", .null]]).2.2.2 _ shown _ [] (by decide) (by decide)
    (by decide) rfl rfl ⟨rfl, rfl⟩

end BrowserFlow.Table
