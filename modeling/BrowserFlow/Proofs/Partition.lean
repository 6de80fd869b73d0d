import BrowserFlow.Proofs.Bodies
import Mathlib.Data.Set.Card
import Mathlib.Order.Interval.Finset.Nat

/-!
The bodies of repeaters divide a flow. A body is the longest stretch behind its repeater that holds
no repeater, so a position belongs to the nearest repeater before it and to no other.

* `BodyRange.IsBody`: what stretch of positions a body is.
* `NearestBefore`: the nearest repeater before a position.
* `BodyRange.after_partitions`: bodies are such stretches, no two of them share a position, and only
  repeaters and what stands before the first of them are left out.
-/
namespace BrowserFlow
set_option autoImplicit false

/-! ## Where repeaters stand -/

/-- A loop or a for-each stands at this position, enabled or not. -/
def RepeaterAt (blocks : List Block) (i : Nat) : Prop :=
  ∃ b, blocks[i]? = some b ∧ FlowFile.IsRepeaterTag b.type

/-- The nearest repeater before a position. -/
structure NearestBefore (blocks : List Block) (i j : Nat) : Prop where
  lt : i < j
  repeats : RepeaterAt blocks i
  between : ∀ k, i < k → k < j → ¬ RepeaterAt blocks k

section Positions
variable {blocks : List Block} {i j k : Nat}

theorem RepeaterAt.lt_length (hi : RepeaterAt blocks i) : i < blocks.length := by
  obtain ⟨b, hb, -⟩ := hi
  exact (List.getElem?_eq_some_iff.1 hb).1

theorem repeaterAt_iff (hi : i < blocks.length) :
    RepeaterAt blocks i ↔ blocks[i].isRepeater = true := by
  rw [Block.isRepeater_iff]
  constructor
  · rintro ⟨b, hb, htype⟩
    rw [List.getElem?_eq_getElem hi] at hb
    cases hb
    exact htype
  · intro htype
    exact ⟨blocks[i], List.getElem?_eq_getElem hi, htype⟩

theorem repeaterAt_congr {blocks' : List Block}
    (htypes : blocks'.map (·.type) = blocks.map (·.type)) :
    RepeaterAt blocks' i ↔ RepeaterAt blocks i := by
  have hstands (bs : List Block) : RepeaterAt bs i ↔
      ∃ t, (bs.map (·.type))[i]? = some t ∧ FlowFile.IsRepeaterTag t := by
    rw [List.getElem?_map]
    cases hb : bs[i]? <;> simp [RepeaterAt, hb]
  rw [hstands, hstands, htypes]

theorem NearestBefore.unique (hi : NearestBefore blocks i j) (hk : NearestBefore blocks k j) :
    i = k := by
  obtain hlt | heq | hgt := Nat.lt_trichotomy i k
  · exact absurd hk.repeats (hi.between k hlt hk.lt)
  · exact heq
  · exact absurd hi.repeats (hk.between i hgt hi.lt)

theorem exists_nearestBefore (hj : ∃ i < j, RepeaterAt blocks i) :
    ∃ i, NearestBefore blocks i j := by
  induction j with
  | zero =>
    obtain ⟨i, hi, -⟩ := hj
    omega
  | succ j ih =>
    by_cases hlast : RepeaterAt blocks j
    · refine ⟨j, by omega, hlast, ?_⟩
      intro k hjk hk
      omega
    · obtain ⟨i, hi, hrepeats⟩ := hj
      have hij : i ≠ j := by
        intro h
        exact hlast (h ▸ hrepeats)
      obtain ⟨n, hn⟩ := ih ⟨i, by omega, hrepeats⟩
      have hlt := hn.lt
      refine ⟨n, by omega, hn.repeats, ?_⟩
      intro k hnk hk
      by_cases hkj : k = j
      · exact hkj ▸ hlast
      · exact hn.between k hnk (by omega)

end Positions

/-! ## The stretch of a body -/

namespace BodyRange

instance : Membership Nat BodyRange := ⟨fun r j => r.start ≤ j ∧ j < r.stop⟩

instance (r : BodyRange) (j : Nat) : Decidable (j ∈ r) :=
  inferInstanceAs (Decidable (r.start ≤ j ∧ j < r.stop))

variable {blocks : List Block} {i j k : Nat} {r r' : BodyRange}

theorem mem_iff : j ∈ r ↔ r.start ≤ j ∧ j < r.stop := Iff.rfl

/-- A stretch right behind a position that holds no repeater and cannot be extended. -/
structure IsBody (blocks : List Block) (i : Nat) (r : BodyRange) : Prop where
  start : r.start = i + 1
  le : r.start ≤ r.stop
  within : r.stop ≤ blocks.length
  free : ∀ j ∈ r, ¬ RepeaterAt blocks j
  ends : r.stop = blocks.length ∨ RepeaterAt blocks r.stop

theorem stop_after (blocks : List Block) (i : Nat) :
    (after blocks i).stop = i + 1 + (blocks.drop (i + 1)).findIdx (·.isRepeater) := by
  have hle : (blocks.drop (i + 1)).findIdx (·.isRepeater) ≤ (blocks.drop (i + 1)).length :=
    List.findIdx_le_length
  have hlength : ((blocks.drop (i + 1)).takeWhile (!·.isRepeater)).length =
      (blocks.drop (i + 1)).findIdx (·.isRepeater) := by
    rw [List.takeWhile_eq_take_findIdx_not, List.length_take]
    simp only [Bool.not_not]
    omega
  unfold after
  dsimp only
  rw [hlength]

theorem isBody_after (hi : i < blocks.length) : IsBody blocks i (after blocks i) := by
  have hstart : (after blocks i).start = i + 1 := rfl
  have hstop := stop_after blocks i
  have hbound : (after blocks i).stop ≤ blocks.length := stop_le hi
  refine ⟨hstart, by omega, hbound, ?_, ?_⟩
  · intro j hj
    rw [mem_iff] at hj
    have hbefore : j - (i + 1) < (blocks.drop (i + 1)).findIdx (·.isRepeater) := by omega
    have hplain := List.not_of_lt_findIdx hbefore
    have hindex : i + 1 + (j - (i + 1)) = j := by omega
    rw [List.getElem_drop] at hplain
    simp only [hindex] at hplain
    rw [repeaterAt_iff (by omega), hplain]
    exact Bool.false_ne_true
  · by_cases hend : (after blocks i).stop = blocks.length
    · exact .inl hend
    · have hlt : (blocks.drop (i + 1)).findIdx (·.isRepeater) < (blocks.drop (i + 1)).length := by
        rw [List.length_drop]
        omega
      have hfound := List.findIdx_getElem (w := hlt)
      rw [List.getElem_drop] at hfound
      simp only [← hstop] at hfound
      exact .inr ((repeaterAt_iff (by omega)).2 hfound)

theorem IsBody.stop_le (hr : IsBody blocks i r) (hr' : IsBody blocks i r') : r.stop ≤ r'.stop := by
  by_contra hlt
  have hinside : r'.stop ∈ r := by
    have hle := hr'.le
    rw [hr'.start, ← hr.start] at hle
    exact ⟨hle, by omega⟩
  obtain hend | hrepeats := hr'.ends
  · have hwithin := hr.within
    omega
  · exact hr.free _ hinside hrepeats

/-- There is only one way to extend a stretch as far as it goes. -/
theorem IsBody.unique (hr : IsBody blocks i r) (hr' : IsBody blocks i r') : r = r' := by
  obtain ⟨start, stop⟩ := r
  obtain ⟨start', stop'⟩ := r'
  have hstart : start = start' := hr.start.trans hr'.start.symm
  have hstop : stop = stop' := Nat.le_antisymm (hr.stop_le hr') (hr'.stop_le hr)
  rw [hstart, hstop]

theorem isBody_iff (hi : i < blocks.length) : IsBody blocks i r ↔ r = after blocks i := by
  constructor
  · intro hr
    exact hr.unique (isBody_after hi)
  · rintro rfl
    exact isBody_after hi

theorem IsBody.congr {blocks' : List Block}
    (htypes : blocks'.map (·.type) = blocks.map (·.type)) (hr : IsBody blocks i r) :
    IsBody blocks' i r := by
  have hlength : blocks'.length = blocks.length := by
    simpa using congrArg List.length htypes
  refine ⟨hr.start, hr.le, ?_, ?_, ?_⟩
  · rw [hlength]
    exact hr.within
  · intro j hj
    rw [repeaterAt_congr htypes]
    exact hr.free j hj
  · rw [repeaterAt_congr htypes, hlength]
    exact hr.ends

/-! ## Whose body a position is in -/

theorem mem_after_iff (hi : RepeaterAt blocks i) :
    j ∈ after blocks i ↔
      j < blocks.length ∧ ¬ RepeaterAt blocks j ∧ NearestBefore blocks i j := by
  have hbody := isBody_after hi.lt_length
  have hstart := hbody.start
  constructor
  · intro hj
    have hwithin := hbody.within
    rw [mem_iff] at hj
    refine ⟨by omega, hbody.free j hj, by omega, hi, ?_⟩
    intro k hik hkj
    exact hbody.free k ⟨by omega, by omega⟩
  · rintro ⟨hj, hplain, hnearest⟩
    have hlt := hnearest.lt
    refine mem_iff.2 ⟨by omega, ?_⟩
    by_contra hstop
    -- the stretch would end before the position, and only a repeater can end it there
    obtain hend | hrepeats := hbody.ends
    · omega
    · by_cases heq : (after blocks i).stop = j
      · exact hplain (heq ▸ hrepeats)
      · have hle := hbody.le
        exact hnearest.between _ (by omega) (by omega) hrepeats

theorem after_disjoint (hi : RepeaterAt blocks i) (hk : RepeaterAt blocks k) (hne : i ≠ k)
    (hj : j ∈ after blocks i) : j ∉ after blocks k := by
  intro hj'
  obtain ⟨-, -, hnearest⟩ := (mem_after_iff hi).1 hj
  obtain ⟨-, -, hnearest'⟩ := (mem_after_iff hk).1 hj'
  exact hne (hnearest.unique hnearest')

theorem mem_after_of_nearest (hj : j < blocks.length) (hplain : ¬ RepeaterAt blocks j)
    (hi : NearestBefore blocks i j) (hk : RepeaterAt blocks k) :
    j ∈ after blocks k ↔ k = i := by
  rw [mem_after_iff hk]
  constructor
  · rintro ⟨-, -, hnearest⟩
    exact hnearest.unique hi
  · rintro rfl
    exact ⟨hj, hplain, hi⟩

/-! ## What a range says about itself -/

/-- What a range says about itself is what there is to say about its positions. -/
structure Agrees (blocks : List Block) (i : Nat) (r : BodyRange) : Prop where
  size : {j | j ∈ r}.ncard = r.size
  isEmpty : r.isEmpty = true ↔ ∀ j, j ∉ r
  last : ∀ j ∈ r, (j : Int) ≤ r.lastIndex
  lastIndex : (r.isEmpty = true ∧ r.lastIndex = i) ∨ ∃ j ∈ r, r.lastIndex = j
  select : ∀ k, (r.select blocks)[k]? = if i + 1 + k ∈ r then blocks[i + 1 + k]? else none
  computed : ofRepeater blocks i = .ok r ↔ ∃ j, j ∈ r

theorem isEmpty_iff : r.isEmpty = true ↔ ∀ j, j ∉ r := by
  simp only [isEmpty, decide_eq_true_eq, mem_iff]
  constructor
  · intro hle j hj
    omega
  · intro hnone
    have hfirst := hnone r.start
    omega

theorem ncard_mem (r : BodyRange) : {j | j ∈ r}.ncard = r.size := by
  have hset : {j | j ∈ r} = (Finset.Ico r.start r.stop : Set Nat) := by
    ext j
    simp [mem_iff]
  rw [hset, Set.ncard_coe_finset, Nat.card_Ico]
  rfl

theorem getElem?_select (r : BodyRange) (blocks : List Block) (k : Nat) :
    (r.select blocks)[k]? = if r.start + k ∈ r then blocks[r.start + k]? else none := by
  unfold select
  rw [List.getElem?_drop, List.getElem?_take]
  simp [mem_iff]

theorem agrees_after (hi : RepeaterAt blocks i) : Agrees blocks i (after blocks i) := by
  have hstart : (after blocks i).start = i + 1 := rfl
  have hbody := isBody_after hi.lt_length
  have hle := hbody.le
  refine ⟨ncard_mem _, isEmpty_iff, ?_, ?_, getElem?_select _ _, ?_⟩
  · intro j hj
    rw [mem_iff] at hj
    unfold lastIndex
    omega
  · by_cases hnone : (after blocks i).isEmpty = true
    · have hstop : (after blocks i).stop ≤ (after blocks i).start := by
        simpa [isEmpty] using hnone
      refine .inl ⟨hnone, ?_⟩
      unfold lastIndex
      omega
    · have hstop : (after blocks i).start < (after blocks i).stop := by
        simpa [isEmpty] using hnone
      refine .inr ⟨(after blocks i).stop - 1, ⟨by omega, by omega⟩, ?_⟩
      unfold lastIndex
      omega
  · obtain ⟨b, hb, -⟩ := hi
    have hsome : (∃ j, j ∈ after blocks i) ↔ ¬ (after blocks i).isEmpty = true := by
      rw [isEmpty_iff]
      simp
    unfold ofRepeater
    dsimp only
    rw [hsome, hb]
    split
    · rename_i hnone
      simp [hnone]
    · rename_i hnone
      simp [hnone]

/-- Every repeater has one body, the stretch behind it that holds no repeater and cannot be
extended, and only the types of the blocks count for it. The bodies of two repeaters share no
position. Behind the first repeater, whatever is no repeater is in the body of the nearest one
before it and in no other; what stands before the first repeater is in none. -/
theorem after_partitions (blocks : List Block) :
    (∀ i, RepeaterAt blocks i →
      (∀ r, IsBody blocks i r ↔ r = after blocks i) ∧
      (∀ blocks' : List Block, blocks'.map (·.type) = blocks.map (·.type) →
        after blocks' i = after blocks i) ∧
      Agrees blocks i (after blocks i)) ∧
    (∀ i k, RepeaterAt blocks i → RepeaterAt blocks k → i ≠ k →
      ∀ j ∈ after blocks i, j ∉ after blocks k) ∧
    (∀ j, j < blocks.length → ¬ RepeaterAt blocks j → (∃ i < j, RepeaterAt blocks i) →
      ∃ i, NearestBefore blocks i j ∧
        ∀ k, RepeaterAt blocks k → (j ∈ after blocks k ↔ k = i)) ∧
    ∀ j, (∀ i < j, ¬ RepeaterAt blocks i) → ∀ k, RepeaterAt blocks k → j ∉ after blocks k := by
  refine ⟨?_, ?_, ?_, ?_⟩
  · intro i hi
    refine ⟨fun r => isBody_iff hi.lt_length, ?_, agrees_after hi⟩
    intro blocks' htypes
    have hbody : IsBody blocks' i (after blocks i) := (isBody_after hi.lt_length).congr htypes
    have hi' : i < blocks'.length := ((repeaterAt_congr htypes).2 hi).lt_length
    exact ((isBody_iff hi').1 hbody).symm
  · intro i k hi hk hne j hj
    exact after_disjoint hi hk hne hj
  · intro j hj hplain hbefore
    obtain ⟨i, hi⟩ := exists_nearestBefore hbefore
    exact ⟨i, hi, fun k hk => mem_after_of_nearest hj hplain hi hk⟩
  · intro j hfirst k hk hj
    obtain ⟨-, -, hnearest⟩ := (mem_after_iff hk).1 hj
    exact hfirst k hnearest.lt hk

example :
    after [{ type := .text "loop" }, { type := .text "click" },
      { type := .text "for_each", enabled := false }, { type := .text "wait" }] 0 = ⟨1, 2⟩ := by
  decide

end BodyRange

end BrowserFlow
