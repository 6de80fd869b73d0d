import Mathlib.Data.List.Basic
import Mathlib.Data.List.Induction

/-!
First and last occurrences in lists: the last entry with a property, and the members of a list
without repetitions, each where it came up first.
-/
namespace BrowserFlow
set_option autoImplicit false

variable {α : Type}

theorem find?_reverse_eq_some {p : α → Bool} {l : List α} {a : α} :
    l.reverse.find? p = some a ↔
      p a = true ∧ ∃ before after, l = before ++ a :: after ∧ ∀ b ∈ after, p b = false := by
  rw [List.find?_eq_some_iff_append]
  refine and_congr_right fun _ => ?_
  constructor
  · rintro ⟨after, before, heq, hafter⟩
    refine ⟨before.reverse, after.reverse, ?_, ?_⟩
    · rw [← List.reverse_inj, heq]
      simp
    · intro b hb
      simpa using hafter b (List.mem_reverse.1 hb)
  · rintro ⟨before, after, rfl, hafter⟩
    refine ⟨after.reverse, before.reverse, by simp, ?_⟩
    intro b hb
    simpa using hafter b (List.mem_reverse.1 hb)

section Distinct
variable [BEq α] [LawfulBEq α] (l : List α)

theorem eraseDups_concat (a : α) :
    (l ++ [a]).eraseDups = if a ∈ l then l.eraseDups else l.eraseDups ++ [a] := by
  rw [List.eraseDups_append]
  by_cases ha : a ∈ l
  · simp [ha, List.removeAll]
  · simp [ha, List.removeAll, List.eraseDups_cons]

/-- Without repetitions, members stand in the order in which they came up. -/
theorem pairwise_eraseDups : l.eraseDups.Pairwise fun a b => l.idxOf a < l.idxOf b := by
  induction l using List.reverseRecOn with
  | nil => exact .nil
  | append_singleton l c ih =>
    have hbefore : l.eraseDups.Pairwise fun a b => (l ++ [c]).idxOf a < (l ++ [c]).idxOf b := by
      refine ih.imp_of_mem ?_
      intro a b ha hb hab
      rw [List.idxOf_append_of_mem (List.mem_eraseDups.1 ha),
        List.idxOf_append_of_mem (List.mem_eraseDups.1 hb)]
      exact hab
    rw [eraseDups_concat]
    split
    · exact hbefore
    · -- a member that is new comes up behind all others
      rename_i hnew
      refine List.pairwise_append.2 ⟨hbefore, List.pairwise_singleton .., ?_⟩
      intro a ha b hb
      rw [List.mem_singleton] at hb
      subst hb
      have ha' := List.mem_eraseDups.1 ha
      have hlt := List.idxOf_lt_length_iff.2 ha'
      rw [List.idxOf_append_of_mem ha', List.idxOf_append_of_notMem hnew]
      omega

end Distinct

end BrowserFlow
