import BrowserFlow.Proofs.Cutting
import BrowserFlow.Proofs.Fallbacks

/-!
Parameters that are passed on through a variable. A reference in braces is replaced by a text; how
the text of a value is read has to agree with how the value itself is read, or a step would depend
on whether its parameter was written out or computed.

* `Text.Settled`: characters that trimming and lower case leave alone.
* `Template.interpolate_reference`: what a reference in braces becomes.
* `Parameter.leadingInt?_toString`: an integer is read back from its digits.
* `Parameter.reference_reads_alike`: the text of a value is read like the value.
-/
namespace BrowserFlow
set_option autoImplicit false

namespace Text

/-! ## Texts that are in lower case and have no blanks -/

/-- A character that lower case leaves alone, wherever it stands. -/
def Lowered (c : Char) : Prop := c.toNat ≠ 931 ∧ lowerChar c = [c]

theorem lowerFrom_lowered {cs : List Char} (hcs : ∀ c ∈ cs, Lowered c) (before : List Char) :
    lowerFrom before cs = cs := by
  induction cs generalizing before with
  | nil => rfl
  | cons c cs ih =>
    obtain ⟨⟨hsigma, hlower⟩, hrest⟩ := List.forall_mem_cons.1 hcs
    rw [lowerFrom, if_neg hsigma, hlower, ih hrest]
    rfl

/-- A character that trimming and lower case leave alone. -/
def Settled (c : Char) : Prop := isBlank c = false ∧ c.toNat ≠ 931 ∧ lowerChar c = [c]

theorem lower_trim_eq_self {s : String} (hs : ∀ c ∈ s.toList, Settled c) : lower (trim s) = s := by
  have htrim : trimChars s.toList = s.toList :=
    trimChars_eq_self (fun c hc => (hs c (List.mem_of_mem_head? hc)).1)
      fun c hc => (hs c (List.mem_of_mem_getLast? hc)).1
  have hlower : ∀ c ∈ s.toList, Lowered c := fun c hc => (hs c hc).2
  rw [lower, trim, String.toList_ofList, htrim, lowerFrom_lowered hlower, String.ofList_toList]

theorem settled_minus : Settled '-' := by
  unfold Settled
  decide

theorem settled_digitChar : ∀ d < 10, Settled d.digitChar := by
  unfold Settled
  decide

theorem settled_toString {n : Int} {c : Char} (hc : c ∈ (toString n).toList) : Settled c := by
  rw [toList_toString] at hc
  obtain hc | hc := List.mem_append.1 hc
  · split at hc
    · rw [List.mem_singleton.1 hc]
      exact settled_minus
    · cases hc
  · obtain ⟨d, hd, rfl⟩ := mem_toDigits hc
    exact settled_digitChar d hd

end Text

/-! ## References -/

namespace Template

/-- A reference in braces, as the whole text of a parameter. -/
def reference (name : String) : Value := .text (String.ofList (Token.braced name).source)

/-- The text that a value becomes in a template. -/
def carried : Value → Value
  | .null => .text ""
  | v => .text (render v)

theorem cut_reference {name : String} (hname : Text.IsWord name.toList) :
    Token.cut (String.ofList (Token.braced name).source) = [.braced name] := by
  have hfront : Token.Front (Token.braced name).source (.braced (String.ofList name.toList)) [] :=
    .braced hname
  rw [String.ofList_toList] at hfront
  have hcuts : Token.Cuts (String.ofList (Token.braced name).source).toList [.braced name] := by
    rw [String.toList_ofList]
    exact .reference hfront .nil
  exact (Token.cuts_iff.1 hcuts).symm

theorem interpolate_reference {store : Store} {name : String} {v : Value}
    (hname : Text.IsWord name.toList) (hv : store.get? name = some v) :
    interpolate store (reference name) = carried v := by
  rw [reference, interpolate, fill, cut_reference hname, List.map_singleton, expand_braced, bound?,
    hv]
  cases v <;> simp [carried]

end Template

namespace Parameter
open Text Template

/-! ## Readings -/

/-- The values that have a text to be read from again: all but doubles and collections. -/
inductive Simple : Value → Prop
  | null : Simple .null
  | bool (b : Bool) : Simple (.bool b)
  | int (n : Int) : Simple (.int n)
  | text (s : String) : Simple (.text s)

theorem leads_toString (n : Int) : Leads (toString n).toList n := by
  have hdigits : ∀ c ∈ Nat.toDigits 10 n.natAbs, isDigit c = true :=
    fun _ => isDigit_of_mem_toDigits
  have leads {sign : List Char} {unit : Int} (hsign : Sign sign unit) :
      Leads (sign ++ Nat.toDigits 10 n.natAbs) (unit * n.natAbs) := by
    have hleads : Leads ([] ++ (sign ++ (Nat.toDigits 10 n.natAbs ++ [])))
        (unit * digitsValue (Nat.toDigits 10 n.natAbs)) :=
      .intro nofun hsign Nat.toDigits_ne_nil hdigits nofun
    rwa [digitsValue_toDigits, List.append_nil, List.nil_append] at hleads
  rw [toList_toString]
  by_cases hn : n < 0
  · have hminus := leads .minus
    rw [if_pos hn]
    rwa [show -1 * (n.natAbs : Int) = n by omega] at hminus
  · have hnone := leads .none
    rw [if_neg hn]
    rwa [show 1 * (n.natAbs : Int) = n by omega] at hnone

theorem leadingInt?_toString (n : Int) : leadingInt? (toString n) = some n :=
  leadingInt?_eq_some.2 (leads_toString n)

theorem toString_inj {m n : Int} : toString m = toString n ↔ m = n := by
  constructor
  · intro h
    have hread := congrArg leadingInt? h
    rwa [leadingInt?_toString, leadingInt?_toString, Option.some_inj] at hread
  · rintro rfl
    rfl

/-- Of the words that switch off, only the zero is a number. -/
theorem toString_mem_offWords {n : Int} : toString n ∈ offWords ↔ n = 0 := by
  constructor
  · intro hn
    have unread {word : String} (hword : leadingInt? word = none) : toString n ≠ word := by
      rintro rfl
      rw [leadingInt?_toString] at hword
      cases hword
    have hzero : toString n = toString (0 : Int) := by
      simp only [offWords, List.mem_cons, List.not_mem_nil, or_false] at hn
      obtain hn | hn | hn | hn := hn
      · exact absurd hn (unread (by decide))
      · exact hn
      · exact absurd hn (unread (by decide))
      · exact absurd hn (unread (by decide))
    exact toString_inj.1 hzero
  · rintro rfl
    decide

theorem flag_text {s : String} (hs : s ≠ "") (d : Bool) :
    flag (.text s) d = !offWords.contains (lower (trim s)) := by
  generalize hv : Value.text s = v
  unfold flag
  split
  · cases hv
  · cases hv
    exact absurd rfl hs
  · cases hv
  · cases hv
  · cases hv
  · cases hv
    rfl

theorem choice_eq {v : Value} (hv : v ≠ .null) (d : String) :
    choice v d = if lower (trim v.display) = "" then d else lower (trim v.display) := by
  cases v with
  | null => exact absurd rfl hv
  | _ => rfl

section Carried
variable {v : Value} (hv : Simple v)
include hv

theorem int?_carried (d : Option Int) : int? (carried v) d = int? v d := by
  cases hv with
  | null => cases d <;> rfl
  | bool b => cases b <;> cases d <;> rfl
  | int n =>
    show Except.ok ((leadingInt? (toString n)).or d) = Except.ok (some n)
    rw [leadingInt?_toString]
    rfl
  | text s => rfl

theorem flag_carried (d : Bool) : flag (carried v) d = flag v d := by
  cases hv with
  | null => rfl
  | bool b => cases b <;> rfl
  | int n =>
    have hne : toString n ≠ "" := by
      intro hempty
      have hread := leadingInt?_toString n
      rw [hempty] at hread
      cases hread
    have hself : lower (trim (toString n)) = toString n :=
      lower_trim_eq_self fun _ => settled_toString
    have hflag : flag (carried (.int n)) d = !offWords.contains (toString n) := by
      rw [carried, render, flag_text hne, hself]
      nofun
    have hcontains : offWords.contains (toString n) = true ↔ n = 0 := by
      rw [List.contains_iff_mem, toString_mem_offWords]
    show flag (carried (.int n)) d = (n != 0)
    rw [hflag, bne, Bool.not_inj_iff, Bool.eq_iff_iff, hcontains, beq_iff_eq]
  | text s => rfl

theorem choice_carried (d : String) : choice (carried v) d = choice v d := by
  cases hv with
  | null =>
    have hempty : Value.text "" ≠ .null := nofun
    show choice (.text "") d = d
    rw [choice_eq hempty, if_pos (by decide)]
  | bool b =>
    have hcarried : carried (.bool b) ≠ .null := nofun
    have hbool : Value.bool b ≠ .null := nofun
    have hword : lower (trim (carried (.bool b)).display) =
        lower (trim (Value.bool b).display) := by
      cases b <;> decide
    rw [choice_eq hcarried, choice_eq hbool, hword]
  | int n => rfl
  | text s => rfl

end Carried

/-- A parameter that is a reference to a variable is read like the value of the variable. -/
theorem reference_reads_alike {store : Store} {name : String} {v : Value}
    (hname : IsWord name.toList) (hv : Simple v) (hstore : store.get? name = some v) :
    (∀ d, int? (interpolate store (reference name)) d = int? v d) ∧
    (∀ d, flag (interpolate store (reference name)) d = flag v d) ∧
    ∀ d, choice (interpolate store (reference name)) d = choice v d := by
  rw [interpolate_reference hname hstore]
  exact ⟨int?_carried hv, flag_carried hv, choice_carried hv⟩

theorem reference_reads_alike_negative :
    IsWord "pause".toList ∧ Simple (.int (-250)) ∧
      Store.get? [("pause", .int (-250))] "pause" = some (.int (-250)) ∧
      int? (interpolate [("pause", .int (-250))] (reference "pause")) none = .ok (some (-250)) ∧
      flag (interpolate [("pause", .int (-250))] (reference "pause")) false = true ∧
      choice (interpolate [("pause", .int (-250))] (reference "pause")) "next" = "-250" := by
  have hname : IsWord "pause".toList := Text.isWord_of_all (by decide) (by decide)
  have hstore : Store.get? [("pause", .int (-250))] "pause" = some (.int (-250)) := rfl
  obtain ⟨hint, hflag, hchoice⟩ := reference_reads_alike hname (.int (-250)) hstore
  exact ⟨hname, .int _, hstore, hint none, hflag false, (hchoice "next").trans (by decide)⟩

end Parameter
end BrowserFlow
