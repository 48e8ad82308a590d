import DetectorDashboard.Proofs.Markup

/-! Escaped text. Each of the five characters that mean something in a document is written as an
entity, and a reader that puts the characters back, in one pass from the left, has the text again:
what an entity is in the text itself is written with an ampersand that has become one. The texts
that escaping produces are just those without the other four characters in which every ampersand
begins an entity. -/

namespace DetectorDashboard.Html

/-- The characters that are not written as they are, each with its entity. -/
def entities : List (Char × List Char) :=
  [ ('&', "&amp;".toList),
    ('<', "&lt;".toList),
    ('>', "&gt;".toList),
    ('"', "&quot;".toList),
    ('\'', "&#39;".toList) ]

/-- The text with its entities replaced by their characters. What an entity has become is not read
again. -/
def unescapeChars : List Char → List Char
  | '&' :: 'a' :: 'm' :: 'p' :: ';' :: rest => '&' :: unescapeChars rest
  | '&' :: 'l' :: 't' :: ';' :: rest => '<' :: unescapeChars rest
  | '&' :: 'g' :: 't' :: ';' :: rest => '>' :: unescapeChars rest
  | '&' :: 'q' :: 'u' :: 'o' :: 't' :: ';' :: rest => '"' :: unescapeChars rest
  | '&' :: '#' :: '3' :: '9' :: ';' :: rest => '\'' :: unescapeChars rest
  | c :: rest => c :: unescapeChars rest
  | [] => []

def unescape (s : String) : String :=
  String.ofList (unescapeChars s.toList)

/-- A text without any character that could open or end something, in which every ampersand begins
an entity. -/
structure IsEscaped (cs : List Char) : Prop where
  plain : ∀ c ∈ ['"', '\'', '<', '>'], c ∉ cs
  entity : ∀ rest, '&' :: rest <:+ cs → ∃ e ∈ entities, e.2 <+: '&' :: rest

/-! ### One character -/

theorem escapeChar_of_mem {e : Char × List Char} (h : e ∈ entities) : escapeChar e.1 = e.2 := by
  have hall : ∀ e ∈ entities, escapeChar e.1 = e.2 := by decide
  exact hall e h

theorem escapeChar_of_notMem {c : Char} (h : c ∉ entities.map (·.1)) : escapeChar c = [c] := by
  simp only [entities, List.map_cons, List.map_nil, List.mem_cons, List.not_mem_nil, or_false,
    not_or] at h
  obtain ⟨hamp, hlt, hgt, hquot, hapos⟩ := h
  unfold escapeChar
  split <;> first | contradiction | rfl

/-- A character is written as its entity, or it has none and stands for itself. -/
theorem escapeChar_cases (c : Char) :
    (∃ e ∈ entities, c = e.1 ∧ escapeChar c = e.2) ∨
      c ∉ entities.map (·.1) ∧ escapeChar c = [c] := by
  by_cases hmem : c ∈ entities.map (·.1)
  · obtain ⟨e, he, rfl⟩ := List.mem_map.mp hmem
    exact .inl ⟨e, he, rfl, escapeChar_of_mem he⟩
  · exact .inr ⟨hmem, escapeChar_of_notMem hmem⟩

theorem unescapeChars_entity {e : Char × List Char} (h : e ∈ entities) (s : List Char) :
    unescapeChars (e.2 ++ s) = e.1 :: unescapeChars s := by
  simp only [entities, List.mem_cons, List.not_mem_nil, or_false] at h
  rcases h with rfl | rfl | rfl | rfl | rfl <;> rfl

theorem unescapeChars_cons {c : Char} (h : c ≠ '&') (s : List Char) :
    unescapeChars (c :: s) = c :: unescapeChars s := by
  rw [unescapeChars] <;> simp [h]

theorem unescapeChars_escapeChar (c : Char) (s : List Char) :
    unescapeChars (escapeChar c ++ s) = c :: unescapeChars s := by
  rcases escapeChar_cases c with ⟨e, he, rfl, hescaped⟩ | ⟨hmem, hescaped⟩
  · rw [hescaped, unescapeChars_entity he]
  · have hamp : c ≠ '&' := by
      rintro rfl
      exact hmem (by decide)
    rw [hescaped, List.singleton_append, unescapeChars_cons hamp]

/-- In what is written for a character an ampersand can only come first. -/
theorem eq_entity_of_suffix {c : Char} {rest : List Char} (h : '&' :: rest <:+ escapeChar c) :
    ∃ e ∈ entities, '&' :: rest = e.2 := by
  rcases escapeChar_cases c with ⟨e, he, -, hescaped⟩ | ⟨hmem, hescaped⟩
  · have honce : ∀ e ∈ entities, ∀ t ∈ e.2.tails, t.head? = some '&' → t = e.2 := by decide
    rw [hescaped] at h
    exact ⟨e, he, honce e he _ ((List.mem_tails _ _).mpr h) rfl⟩
  · rw [hescaped] at h
    have hamp : '&' = c := List.mem_singleton.mp (h.subset List.mem_cons_self)
    exact absurd (by rw [← hamp]; decide) hmem

/-! ### Whole texts -/

theorem unescapeChars_escapeChars (cs : List Char) : unescapeChars (escapeChars cs) = cs := by
  induction cs with
  | nil => rfl
  | cons c cs ih =>
      rw [escapeChars, List.flatMap_cons, unescapeChars_escapeChar, ← escapeChars, ih]

theorem escapeChars_injective : Function.Injective escapeChars :=
  Function.LeftInverse.injective unescapeChars_escapeChars

theorem isEscaped_escapeChars (cs : List Char) : IsEscaped (escapeChars cs) where
  plain _ hc := notMem_escapeChars hc cs
  entity rest hrest := by
    induction cs with
    | nil => exact absurd (List.suffix_nil.mp hrest) (List.cons_ne_nil _ _)
    | cons c cs ih =>
        rw [escapeChars, List.flatMap_cons, ← escapeChars] at hrest
        rcases List.suffix_or_suffix_of_suffix hrest (List.suffix_append _ _) with h | ⟨t, ht⟩
        · exact ih h
        cases t with
        | nil => exact ih (ht ▸ List.suffix_rfl)
        | cons d t =>
            -- the ampersand stands in what is written for the first character
            rw [← ht, List.suffix_append_self_iff] at hrest
            obtain ⟨rfl, -⟩ := List.cons.inj ht
            obtain ⟨e, he, heq⟩ := eq_entity_of_suffix hrest
            exact ⟨e, he, escapeChars cs, by rw [← heq, ht]⟩

theorem IsEscaped.of_suffix {cs ds : List Char} (h : IsEscaped cs) (hds : ds <:+ cs) :
    IsEscaped ds where
  plain c hc hmem := h.plain c hc (hds.subset hmem)
  entity rest hrest := h.entity rest (hrest.trans hds)

/-- A text begins with an entity or with a character that has none. -/
theorem IsEscaped.cons_cases {c : Char} {cs : List Char} (h : IsEscaped (c :: cs)) :
    (∃ e ∈ entities, ∃ rest, c :: cs = e.2 ++ rest) ∨ c ∉ entities.map (·.1) := by
  by_cases hamp : c = '&'
  · subst hamp
    obtain ⟨e, he, rest, hrest⟩ := h.entity cs List.suffix_rfl
    exact .inl ⟨e, he, rest, hrest.symm⟩
  · right
    intro hmem
    have hplain : c ∈ ['"', '\'', '<', '>'] := by
      simp only [entities, List.map_cons, List.map_nil, List.mem_cons, List.not_mem_nil] at hmem ⊢
      tauto
    exact h.plain c hplain List.mem_cons_self

/-- What is written with entities only is written as escaping writes it. -/
theorem escapeChars_unescapeChars {cs : List Char} (h : IsEscaped cs) :
    escapeChars (unescapeChars cs) = cs := by
  induction hlength : cs.length using Nat.strong_induction_on generalizing cs with
  | _ n ih =>
      cases cs with
      | nil => rfl
      | cons c cs =>
          rcases h.cons_cases with ⟨e, he, rest, hrest⟩ | hmem
          · have hshorter : rest.length < n := by
              have hne : ∀ e ∈ entities, 0 < e.2.length := by decide
              have hsum := congrArg List.length hrest
              rw [List.length_append, hlength] at hsum
              have := hne e he
              omega
            rw [hrest] at h ⊢
            rw [unescapeChars_entity he, escapeChars, List.flatMap_cons, escapeChar_of_mem he,
              ← escapeChars, ih _ hshorter (h.of_suffix (List.suffix_append _ _)) rfl]
          · have hamp : c ≠ '&' := by
              rintro rfl
              exact hmem (by decide)
            rw [unescapeChars_cons hamp, escapeChars, List.flatMap_cons, escapeChar_of_notMem hmem,
              ← escapeChars, ih _ (by simp [← hlength]) (h.of_suffix (List.suffix_cons c cs)) rfl,
              List.singleton_append]

/-- Escaping loses nothing, since the characters can be put back, also into a text that looked
escaped before. In an escaped text nothing can open or end anything, and every ampersand begins an
entity; the texts of which that is true are those that escaping gives back once they have been read.
A text can be escaped in parts. -/
theorem escape_lossless (t u : String) :
    unescape (escape t) = t ∧
      Function.Injective escape ∧
      IsEscaped (escape t).toList ∧
      (IsEscaped u.toList ↔ escape (unescape u) = u) ∧
      escape (t ++ u) = escape t ++ escape u := by
  have hchars (s : String) : (escape s).toList = escapeChars s.toList := String.toList_ofList
  have hescaped (s : String) : IsEscaped (escape s).toList := by
    rw [hchars]
    exact isEscaped_escapeChars s.toList
  have hback (s : String) : unescape (escape s) = s := by
    rw [unescape, hchars, unescapeChars_escapeChars, String.ofList_toList]
  have hinjective : Function.Injective escape := Function.LeftInverse.injective hback
  refine ⟨hback t, hinjective, hescaped t, ⟨fun hu => ?_, fun hu => ?_⟩, ?_⟩
  · rw [escape, unescape, String.toList_ofList, escapeChars_unescapeChars hu, String.ofList_toList]
  · rw [← hu]
    exact hescaped _
  · rw [escape, String.toList_append, escapeChars_append, String.ofList_append]
    rfl

/-- An entity in a text is escaped once more, and is read back as it was. -/
example : escape "&lt;<" = "&amp;lt;&lt;" ∧ unescape "&amp;lt;&lt;" = "&lt;<" := by decide

end DetectorDashboard.Html
