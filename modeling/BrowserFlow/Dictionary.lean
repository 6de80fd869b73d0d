/-!
Entries under names. A name has one place, the one where it came up first, and one value, the one
that it was given last.
-/
namespace BrowserFlow
set_option autoImplicit false

/-- Values under names, in the order in which the names came up. -/
abbrev Dictionary (α : Type) := List (String × α)

namespace Dictionary

variable {α : Type}

/-- Puts a value under a name; a name that is taken keeps its place and takes the new value. -/
def put : Dictionary α → String → α → Dictionary α
  | [], name, value => [(name, value)]
  | (n, v) :: rest, name, value =>
    if n = name then (name, value) :: rest else (n, v) :: put rest name value

theorem lookup_cons_eq_ite (n : String) (v : α) (rest : Dictionary α) (name : String) :
    List.lookup name ((n, v) :: rest) = if name = n then some v else rest.lookup name := by
  rw [List.lookup_cons]
  by_cases h : name = n
  · rw [h, beq_self_eq_true, if_pos rfl]
  · rw [beq_eq_false_iff_ne.2 h, if_neg h]

section Putting
variable (d : Dictionary α) (name : String) (value : α)

theorem map_fst_put :
    (d.put name value).map Prod.fst =
      if name ∈ d.map Prod.fst then d.map Prod.fst else d.map Prod.fst ++ [name] := by
  induction d with
  | nil => rfl
  | cons entry rest ih =>
    obtain ⟨n, v⟩ := entry
    rw [put]
    by_cases hn : n = name
    · rw [if_pos hn, List.map_cons, List.map_cons, if_pos (List.mem_cons.2 (.inl hn.symm)), hn]
    · have hmem : name ∈ n :: rest.map Prod.fst ↔ name ∈ rest.map Prod.fst := by
        rw [List.mem_cons, or_iff_right (Ne.symm hn)]
      rw [if_neg hn, List.map_cons, List.map_cons, ih]
      simp only [hmem]
      split <;> rfl

theorem length_put :
    (d.put name value).length = if name ∈ d.map Prod.fst then d.length else d.length + 1 := by
  have hlength := congrArg List.length (map_fst_put d name value)
  rw [List.length_map] at hlength
  rw [hlength]
  split <;> simp

theorem lookup_put (other : String) :
    (d.put name value).lookup other = if other = name then some value else d.lookup other := by
  induction d with
  | nil => rw [put, lookup_cons_eq_ite]
  | cons entry rest ih =>
    obtain ⟨n, v⟩ := entry
    rw [put]
    by_cases hn : n = name
    · subst hn
      rw [if_pos rfl, lookup_cons_eq_ite, lookup_cons_eq_ite]
      split <;> rfl
    · rw [if_neg hn, lookup_cons_eq_ite, lookup_cons_eq_ite, ih]
      by_cases ho : other = name
      · subst ho
        rw [if_neg (Ne.symm hn), if_pos rfl, if_pos rfl]
      · rw [if_neg ho, if_neg ho]

variable {d name} in
theorem put_of_notMem (hnew : name ∉ d.map Prod.fst) : d.put name value = d ++ [(name, value)] := by
  induction d with
  | nil => rfl
  | cons entry rest ih =>
    obtain ⟨n, v⟩ := entry
    rw [List.map_cons, List.mem_cons, not_or] at hnew
    rw [put, if_neg (Ne.symm hnew.1), ih hnew.2]
    rfl

end Putting

/-- Where names are distinct, an entry is the one under its name. -/
theorem lookup_of_mem {d : Dictionary α} (hnames : (d.map Prod.fst).Nodup) {name : String} {v : α}
    (hv : (name, v) ∈ d) : d.lookup name = some v := by
  obtain ⟨before, after, rfl⟩ := List.append_of_mem hv
  rw [List.map_append, List.map_cons, List.nodup_append] at hnames
  refine List.lookup_eq_some_iff.2 ⟨before, after, rfl, fun e he => ?_⟩
  have hother := hnames.2.2 e.1 (List.mem_map_of_mem he) name List.mem_cons_self
  exact bne_iff_ne.2 hother.symm

end Dictionary

end BrowserFlow
