import Mathlib.Data.List.Induction
import DetectorDashboard.SequenceGate

/-! The gate of one endpoint as such, under requests and answers in any order, also under answers to
requests that were never made. Its counter is the number of requests so far, and what it remembers is
the greatest number among the answers that came, so an answer is let through just if its number is a
new maximum. Of the answers only the set of their numbers counts. -/

namespace DetectorDashboard.SequenceGate

inductive Operation where
  | issue
  | accept (seq : UInt64)
deriving DecidableEq

def Operation.seq? : Operation → Option UInt64
  | .issue => none
  | .accept seq => some seq

/-- The numbers that some operations ask to be accepted, in their order. -/
def requested (operations : List Operation) : List UInt64 :=
  operations.filterMap (·.seq?)

/-- The gate after an operation. What is not accepted leaves it as it is. -/
def operate (g : SequenceGate) : Operation → SequenceGate
  | .issue => g.issue.2
  | .accept seq => (g.accept? seq.toNat).getD g

/-- The gate after some operations, the first of them on a new one. -/
def after (operations : List Operation) : SequenceGate :=
  operations.foldl operate {}

/-! ### One operation -/

theorem accept?_eq_some_iff {g g' : SequenceGate} {seq : Nat} :
    g.accept? seq = some g' ↔ g.isNewer seq ∧ g' = { g with lastApplied := some seq } := by
  rw [accept?]
  by_cases hnewer : g.isNewer seq
  · simp [hnewer, eq_comm]
  · simp [hnewer]

theorem accept?_eq_none_iff {g : SequenceGate} {seq : Nat} :
    g.accept? seq = none ↔ ¬ g.isNewer seq := by
  rw [accept?]
  by_cases hnewer : g.isNewer seq <;> simp [hnewer]

theorem next_operate (g : SequenceGate) (operation : Operation) :
    (g.operate operation).next = g.next + [operation].count .issue := by
  cases operation with
  | issue => rfl
  | accept seq =>
      cases haccept : g.accept? seq.toNat with
      | none => simp [operate, haccept]
      | some g' =>
          obtain ⟨-, rfl⟩ := accept?_eq_some_iff.mp haccept
          simp [operate, haccept]

section

variable {g : SequenceGate} {seqs : List Nat} (h : g.lastApplied = seqs.max?)

include h

/-- A number is newer than the greatest of some just if it is greater than each of them. -/
theorem isNewer_iff (seq : Nat) : g.isNewer seq ↔ ∀ earlier ∈ seqs, earlier < seq := by
  rw [isNewer, h]
  cases hmax : seqs.max? with
  | none =>
      rw [List.max?_eq_none_iff] at hmax
      simp [hmax]
  | some greatest =>
      obtain ⟨hmem, hle⟩ := List.max?_eq_some_iff.mp hmax
      rw [Option.all_some, decide_eq_true_iff]
      constructor
      · intro hlt earlier hearlier
        exact Nat.lt_of_le_of_lt (hle earlier hearlier) hlt
      · intro hall
        exact hall greatest hmem

/-- After one more number the gate still remembers the greatest. -/
theorem lastApplied_accept? (seq : Nat) :
    ((g.accept? seq).getD g).lastApplied = (seqs ++ [seq]).max? := by
  cases haccept : g.accept? seq with
  | some g' =>
      obtain ⟨hnewer, rfl⟩ := accept?_eq_some_iff.mp haccept
      rw [isNewer_iff h] at hnewer
      have hgreatest : (seqs ++ [seq]).max? = some seq := by
        rw [List.max?_eq_some_iff]
        refine ⟨by simp, List.forall_mem_append.mpr ⟨fun earlier hearlier => ?_, by simp⟩⟩
        exact Nat.le_of_lt (hnewer earlier hearlier)
      exact hgreatest.symm
  | none =>
      have hstale := accept?_eq_none_iff.mp haccept
      rw [isNewer, h] at hstale
      cases hmax : seqs.max? with
      | none => simp [hmax] at hstale
      | some greatest =>
          obtain ⟨hmem, hle⟩ := List.max?_eq_some_iff.mp hmax
          have hseq : seq ≤ greatest := by simpa [hmax] using hstale
          have hgreatest : (seqs ++ [seq]).max? = some greatest := by
            rw [List.max?_eq_some_iff]
            exact ⟨List.mem_append_left _ hmem,
              List.forall_mem_append.mpr ⟨hle, List.forall_mem_singleton.mpr hseq⟩⟩
          rw [Option.getD_none, h, hmax, hgreatest]

end

/-! ### All operations -/

theorem after_concat (operations : List Operation) (operation : Operation) :
    after (operations ++ [operation]) = (after operations).operate operation :=
  List.foldl_append ..

theorem next_after (operations : List Operation) :
    (after operations).next = operations.count .issue := by
  induction operations using List.reverseRecOn with
  | nil => rfl
  | append_singleton operations operation ih =>
      rw [after_concat, next_operate, ih, List.count_append]

/-- The numbers, as numbers of any size. -/
theorem lastApplied_after (operations : List Operation) :
    (after operations).lastApplied = ((requested operations).map (·.toNat)).max? := by
  induction operations using List.reverseRecOn with
  | nil => rfl
  | append_singleton operations operation ih =>
      rw [after_concat, requested, List.filterMap_append, ← requested, List.map_append]
      cases operation with
      | issue =>
          show (after operations).lastApplied = _
          rw [ih]
          simp [Operation.seq?]
      | accept seq => exact lastApplied_accept? ih seq.toNat

/-- A number is let through just if it is greater than all that came before it. -/
theorem isNewer_after (operations : List Operation) (seq : UInt64) :
    (after operations).isNewer seq.toNat ↔ ∀ earlier ∈ requested operations, earlier < seq := by
  rw [isNewer_iff (lastApplied_after operations), List.forall_mem_map]
  exact forall₂_congr fun earlier _ => UInt64.lt_iff_toNat_lt.symm

/-- The greatest of some numbers depends only on which numbers they are. -/
theorem max?_congr {seqs others : List Nat} (h : ∀ seq, seq ∈ seqs ↔ seq ∈ others) :
    seqs.max? = others.max? := by
  refine Option.ext fun greatest => ?_
  simp only [List.max?_eq_some_iff, h]

/-- Whatever is asked of a gate, in whatever order: a request gets the number of requests before it,
a word is enough to count them, a number is accepted just if it is greater than all that were asked
to be accepted before it and so not a second time, and the gate remembers the greatest of all, which
does not depend on their order. -/
theorem accepts_running_maxima (operations : List Operation)
    (hissues : operations.count .issue < UInt64.size) :
    (∀ before later, operations = before ++ .issue :: later →
      (after before).issue.1 = before.count .issue ∧
        (after before).issue.2.next < UInt64.size) ∧
    (∀ before seq later, operations = before ++ .accept seq :: later →
      (((after before).accept? seq.toNat).isSome ↔
          ∀ earlier ∈ requested before, earlier < seq) ∧
        (seq ∈ requested before → (after before).accept? seq.toNat = none)) ∧
    (after operations).lastApplied = ((requested operations).map (·.toNat)).max? ∧
    ∀ others, (∀ seq, seq ∈ requested others ↔ seq ∈ requested operations) →
      (after others).lastApplied = (after operations).lastApplied := by
  refine ⟨?_, ?_, lastApplied_after operations, fun others hsame => ?_⟩
  · rintro before later rfl
    rw [List.count_append, List.count_cons_self] at hissues
    have hnext : (after before).next = before.count .issue := next_after before
    refine ⟨hnext, ?_⟩
    show (after before).next + 1 < UInt64.size
    omega
  · rintro before seq later rfl
    have haccepted : ((after before).accept? seq.toNat).isSome ↔ (after before).isNewer seq.toNat := by
      cases haccept : (after before).accept? seq.toNat with
      | none => simpa using accept?_eq_none_iff.mp haccept
      | some g => simpa using (accept?_eq_some_iff.mp haccept).1
    rw [haccepted, accept?_eq_none_iff, isNewer_after]
    exact ⟨Iff.rfl, fun hmem hgreater => UInt64.lt_irrefl seq (hgreater seq hmem)⟩
  · rw [lastApplied_after, lastApplied_after]
    refine max?_congr fun seq => ?_
    simp only [List.mem_map, hsame]

/-- A gate that accepts zero before anything else, the greatest word, and nothing after that. -/
theorem after_greatest_word :
    let operations : List Operation :=
      [.accept 0, .issue, .accept 0, .accept 18446744073709551615, .issue, .accept 7]
    operations.count .issue < UInt64.size ∧
      (after []).lastApplied = none ∧
      (after [.accept 0]).lastApplied = some 0 ∧
      (after (operations.take 2)).accept? 0 = none ∧
      ((after (operations.take 3)).accept? 18446744073709551615).isSome ∧
      (after (operations.take 4)).issue.1 = 1 ∧
      (after (operations.take 5)).accept? 7 = none ∧
      (after operations).lastApplied = some 18446744073709551615 ∧
      (after operations.reverse).lastApplied = some 18446744073709551615 := by
  intro operations
  have hissues : operations.count .issue < UInt64.size := by decide
  obtain ⟨hissue, haccepts, hlast, hsame⟩ := accepts_running_maxima operations hissues
  have hgreatest : (after operations).lastApplied = some 18446744073709551615 :=
    hlast.trans (by decide)
  have hrefused : (after (operations.take 5)).accept? 7 = none := by
    rw [← Option.not_isSome_iff_eq_none]
    intro haccepted
    have hgreater := (haccepts (operations.take 5) 7 [] rfl).1.mp haccepted
    exact absurd (hgreater 18446744073709551615 (by decide)) (by decide)
  have hnew : ∀ earlier ∈ requested (operations.take 3), earlier < 18446744073709551615 := by
    have hrequested : requested (operations.take 3) = [0, 0] := rfl
    rw [hrequested]
    intro earlier hearlier
    obtain rfl : earlier = 0 := by simpa using hearlier
    decide
  have hreverse (seq : UInt64) :
      seq ∈ requested operations.reverse ↔ seq ∈ requested operations := by
    rw [requested, List.filterMap_reverse, List.mem_reverse, ← requested]
  exact ⟨hissues, rfl, rfl, (haccepts (operations.take 2) 0 _ rfl).2 (by decide),
    (haccepts (operations.take 3) 18446744073709551615 _ rfl).1.mpr hnew,
    (hissue (operations.take 4) _ rfl).1, hrefused, hgreatest,
    (hsame operations.reverse hreverse).trans hgreatest⟩

end DetectorDashboard.SequenceGate
