import Mathlib.Data.List.Infix
import DetectorDashboard.Proofs.ElementId

/-! Occurrences of one text in another. A stretch of text is passed over when no occurrence can
begin in it: because it lacks the first character of what is sought, or because a character that
ends the stretch comes before one that would be needed. -/

namespace DetectorDashboard.Text

/-- What follows each occurrence, from the first to the last. -/
def occurrences (needle s : List Char) : List (List Char) :=
  s.tails.filterMap (·.dropPrefix? needle)

theorem dropPrefix?_eq_none {needle s : List Char} (h : ¬ needle <+: s) :
    s.dropPrefix? needle = none := by
  refine Option.eq_none_iff_forall_ne_some.mpr fun rest hrest => h ?_
  obtain ⟨needle', rfl, hbeq⟩ := List.dropPrefix?_eq_some_iff.mp hrest
  rw [eq_of_beq hbeq]
  exact List.prefix_append needle rest

theorem dropPrefix?_append (needle s : List Char) :
    (needle ++ s).dropPrefix? needle = some s :=
  List.dropPrefix?_append_of_beq s (beq_self_eq_true needle)

theorem occurrences_nil {c : Char} {needle : List Char} : occurrences (c :: needle) [] = [] := rfl

theorem occurrences_cons_of_not {needle s : List Char} {c : Char} (h : ¬ needle <+: c :: s) :
    occurrences needle (c :: s) = occurrences needle s := by
  simp only [occurrences, List.tails_cons, List.filterMap_cons, dropPrefix?_eq_none h]

theorem occurrences_self (c : Char) (needle s : List Char) :
    occurrences (c :: needle) (c :: needle ++ s) =
      s :: occurrences (c :: needle) (needle ++ s) := by
  have hdrop := dropPrefix?_append (c :: needle) s
  rw [List.cons_append] at hdrop ⊢
  simp only [occurrences, List.tails_cons, List.filterMap_cons, hdrop]

/-! ### Passing over a stretch of text -/

theorem occurrences_append {needle stretch s : List Char}
    (h : ∀ t, t <:+ stretch → t ≠ [] → ¬ needle <+: t ++ s) :
    occurrences needle (stretch ++ s) = occurrences needle s := by
  induction stretch with
  | nil => rfl
  | cons c stretch ih =>
      have hfirst := h _ List.suffix_rfl (List.cons_ne_nil c stretch)
      rw [List.cons_append] at hfirst ⊢
      rw [occurrences_cons_of_not hfirst]
      exact ih fun t ht => h t (ht.trans (List.suffix_cons c stretch))

/-- Nothing begins where the first character is missing. -/
theorem occurrences_append_of_head {c : Char} {needle : List Char} (stretch : List Char)
    {s : List Char} (h : c ∉ stretch) :
    occurrences (c :: needle) (stretch ++ s) = occurrences (c :: needle) s := by
  refine occurrences_append fun t ht hne hstarts => ?_
  obtain ⟨d, t, rfl⟩ := List.exists_cons_of_ne_nil hne
  have hc : c = d := (List.cons_prefix_cons.mp hstarts).1
  exact h (hc ▸ ht.subset List.mem_cons_self)

/-- What begins with a character that the stretch lacks and that ends it does not go on. -/
theorem not_prefix_append_cons {start needle t s : List Char} {c d : Char}
    (hstart : start <+: needle) (hc : c ∈ start) (ht : c ∉ t) (hd : d ∉ start) :
    ¬ needle <+: t ++ d :: s := by
  intro hstarts
  have hlong : t ++ [d] <+: t ++ d :: s := ⟨s, by simp⟩
  rcases List.prefix_or_prefix_of_prefix (hstart.trans hstarts) hlong with h | h
  · have hmem := h.subset hc
    rw [List.mem_append, List.mem_singleton] at hmem
    rcases hmem with hmem | rfl
    · exact ht hmem
    · exact hd hc
  · exact hd (h.subset (by simp))

/-- Nothing begins where a character is missing that is needed before the one that ends the
stretch. -/
theorem occurrences_append_cons (start : List Char) {needle stretch s : List Char} {c d : Char}
    (hstart : start <+: needle) (hc : c ∈ start) (hstretch : c ∉ stretch) (hd : d ∉ start) :
    occurrences needle (stretch ++ d :: s) = occurrences needle (d :: s) :=
  occurrences_append fun _ ht _ =>
    not_prefix_append_cons hstart hc (fun hmem => hstretch (ht.subset hmem)) hd

theorem occurrences_eq_nil {c d : Char} {needle s : List Char} (hc : c ∈ d :: needle)
    (hs : c ∉ s) : occurrences (d :: needle) s = [] := by
  rw [← List.append_nil s, occurrences_append, occurrences_nil]
  intro t ht _ hstarts
  rw [List.append_nil] at hstarts
  exact hs (ht.subset (hstarts.subset hc))

end DetectorDashboard.Text
