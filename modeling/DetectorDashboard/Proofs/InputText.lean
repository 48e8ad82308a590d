import Mathlib.Data.List.Basic
import DetectorDashboard.Proofs.SpelledNumber
import DetectorDashboard.Text.Blank

/-! Texts as a user types them: the blanks around a text, and whole numbers without a minus sign. What
is left of a text without its blanks is the one part of it that has blanks around and none at its
ends. -/

namespace DetectorDashboard.Text

open Spelling (IsDigits)

/-! ### Blanks around a text -/

def AllBlank (cs : List Char) : Prop :=
  ∀ c ∈ cs, isBlank c = true

/-- A text is `core` with blanks around it, and those are all. -/
structure Trims (s core : String) : Prop where
  around : ∃ before after, s.toList = before ++ (core.toList ++ after) ∧ AllBlank before ∧
    AllBlank after
  first : ∀ c ∈ core.toList.head?, isBlank c = false
  last : ∀ c ∈ core.toList.getLast?, isBlank c = false

theorem trimStart_append {before rest : List Char} (hbefore : AllBlank before)
    (hrest : ∀ c ∈ rest.head?, isBlank c = false) : trimStart (before ++ rest) = rest :=
  (takeWhile_append_of_head? hbefore hrest).2

theorem trimEnd_append {rest after : List Char} (hafter : AllBlank after)
    (hrest : ∀ c ∈ rest.getLast?, isBlank c = false) : trimEnd (rest ++ after) = rest := by
  have hreversed : AllBlank after.reverse := fun c hc => hafter c (List.mem_reverse.mp hc)
  rw [trimEnd, List.reverse_append, trimStart_append hreversed, List.reverse_reverse]
  rwa [List.head?_reverse]

theorem trimStart_of_allBlank {cs : List Char} (h : AllBlank cs) : trimStart cs = [] :=
  List.dropWhile_eq_nil_iff.mpr h

theorem exists_append_trimStart (cs : List Char) :
    ∃ before, cs = before ++ trimStart cs ∧ AllBlank before :=
  ⟨cs.takeWhile isBlank, List.takeWhile_append_dropWhile.symm, fun _ => List.mem_takeWhile_imp⟩

theorem exists_trimEnd_append (cs : List Char) :
    ∃ after, cs = trimEnd cs ++ after ∧ AllBlank after := by
  obtain ⟨before, hsplit, hbefore⟩ := exists_append_trimStart cs.reverse
  refine ⟨before.reverse, ?_, fun c hc => hbefore c (List.mem_reverse.mp hc)⟩
  rw [trimEnd, ← List.reverse_append, ← hsplit, List.reverse_reverse]

theorem isBlank_head?_trimStart (cs : List Char) :
    ∀ c ∈ (trimStart cs).head?, isBlank c = false := by
  intro c hc
  have hnot := List.head?_dropWhile_not isBlank cs
  rw [← trimStart, Option.mem_def.mp hc] at hnot
  simpa using hnot

theorem trims_trim (s : String) : Trims s (trim s) := by
  have hcore : (trim s).toList = trimEnd (trimStart s.toList) := String.toList_ofList
  obtain ⟨before, hstart, hbefore⟩ := exists_append_trimStart s.toList
  obtain ⟨after, hend, hafter⟩ := exists_trimEnd_append (trimStart s.toList)
  refine ⟨⟨before, after, ?_, hbefore, hafter⟩, fun c hc => ?_, fun c hc => ?_⟩
  · rw [hcore, ← hend]
    exact hstart
  · refine isBlank_head?_trimStart s.toList c ?_
    rw [hend, List.head?_append, ← hcore, Option.mem_def.mp hc]
    rfl
  · rw [hcore, trimEnd, List.getLast?_reverse] at hc
    exact isBlank_head?_trimStart _ c hc

theorem Trims.eq_trim {s core : String} (h : Trims s core) : core = trim s := by
  obtain ⟨before, after, hsplit, hbefore, hafter⟩ := h.around
  apply String.toList_injective
  rw [trim, String.toList_ofList, hsplit]
  by_cases hempty : core.toList = []
  · have hblank : AllBlank (before ++ (core.toList ++ after)) := by
      rw [hempty]
      exact List.forall_mem_append.mpr ⟨hbefore, hafter⟩
    rw [trimStart_of_allBlank hblank, hempty]
    rfl
  · have hfirst : ∀ c ∈ (core.toList ++ after).head?, isBlank c = false := by
      rw [List.head?_append_of_ne_nil _ hempty]
      exact h.first
    rw [trimStart_append hbefore hfirst, trimEnd_append hafter h.last]

/-- What is left of a text is determined by what it is. -/
theorem trims_iff {s core : String} : Trims s core ↔ core = trim s := by
  constructor
  · exact Trims.eq_trim
  · rintro rfl
    exact trims_trim s

theorem exists_trims_iff {s : String} {p : String → Prop} :
    (∃ core, Trims s core ∧ p core) ↔ p (trim s) := by
  simp only [trims_iff, exists_eq_left]

theorem trim_eq_empty_iff {s : String} : trim s = "" ↔ AllBlank s.toList := by
  constructor
  · intro hempty
    obtain ⟨before, after, hsplit, hbefore, hafter⟩ := (trims_trim s).around
    rw [hsplit, hempty]
    exact List.forall_mem_append.mpr ⟨hbefore, hafter⟩
  · intro hblank
    have hnone : AllBlank [] := List.forall_mem_nil _
    exact (Trims.eq_trim ⟨⟨s.toList, [], by simp, hblank, hnone⟩, by simp, by simp⟩).symm

/-! ### Whole numbers -/

/-- Digits, perhaps after a plus sign, and the number that they denote. -/
def SpellsUnsigned (cs : List Char) (n : Nat) : Prop :=
  ∃ sign digits, cs = sign ++ digits ∧ (sign = [] ∨ sign = ['+']) ∧ digits ≠ [] ∧
    IsDigits digits ∧ Nat.ofDigitChars 10 digits 0 = n

theorem readDigits?_eq_some_iff {cs : List Char} {n : Nat} :
    readDigits? cs = some n ↔ cs ≠ [] ∧ IsDigits cs ∧ Nat.ofDigitChars 10 cs 0 = n := by
  have hall : (cs ≠ [] ∧ cs.all Char.isDigit = true) ↔ cs ≠ [] ∧ IsDigits cs :=
    and_congr_right fun _ => List.all_eq_true
  rw [readDigits?, ← and_assoc, ← hall]
  by_cases hdigits : cs ≠ [] ∧ cs.all Char.isDigit = true
  · rw [if_pos hdigits, Option.some.injEq]
    exact (and_iff_right hdigits).symm
  · rw [if_neg hdigits]
    exact iff_of_false (Option.some_ne_none n).symm fun h => hdigits h.1

theorem readUnsigned?_eq_some_iff {bound n : Nat} {cs : List Char} :
    readUnsigned? bound cs = some n ↔ n < bound ∧ SpellsUnsigned cs n := by
  have hread (digits : List Char) : (readDigits? digits).filter (· < bound) = some n ↔
      n < bound ∧ digits ≠ [] ∧ IsDigits digits ∧ Nat.ofDigitChars 10 digits 0 = n := by
    rw [Option.filter_eq_some_iff, readDigits?_eq_some_iff, decide_eq_true_iff, and_comm]
  unfold readUnsigned?
  split
  · rename_i rest
    rw [hread]
    refine and_congr_right fun _ => ⟨fun h => ⟨['+'], rest, rfl, .inr rfl, h⟩, ?_⟩
    rintro ⟨sign, digits, hsplit, rfl | rfl, hne, hdigits, hvalue⟩
    · rw [List.nil_append] at hsplit
      exact absurd (hdigits '+' (hsplit ▸ List.mem_cons_self)) (by decide)
    · obtain rfl := (List.cons.inj hsplit).2
      exact ⟨hne, hdigits, hvalue⟩
  · rename_i hunsigned
    rw [hread]
    refine and_congr_right fun _ => ⟨fun h => ⟨[], cs, rfl, .inl rfl, h⟩, ?_⟩
    rintro ⟨sign, digits, rfl, rfl | rfl, hspelled⟩
    · exact hspelled
    · exact absurd rfl (hunsigned digits)

end DetectorDashboard.Text
