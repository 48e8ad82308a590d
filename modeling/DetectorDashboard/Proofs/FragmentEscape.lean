import DetectorDashboard.Proofs.ViewLink

/-! Fragments under percent encoding. A character is written as it is, unless it is a percent sign,
or as the escapes of all its bytes, with digits of either case. However the first segment of a
fragment is written, it is read back as what it was, whatever follows it; so the fragment leads to
the panel with that name. -/

namespace DetectorDashboard

namespace Text.Percent

def IsHexDigit (n : Nat) (c : Char) : Prop :=
  c = Nat.digitChar n ∨ c = (Nat.digitChar n).toUpper

/-- A byte and a spelling of it as an escape. -/
inductive Escapes (b : UInt8) : List Char → Prop
  | intro {high low : Char} (hhigh : IsHexDigit (b.toNat / 16) high)
      (hlow : IsHexDigit (b.toNat % 16) low) : Escapes b ['%', high, low]

/-- A text and a spelling of it, in which some of the characters are escaped. -/
inductive Encodes : List Char → List Char → Prop
  | nil : Encodes [] []
  | literal {c : Char} {cs es : List Char} (hc : c ≠ '%') (h : Encodes cs es) :
      Encodes (c :: cs) (c :: es)
  | escaped {c : Char} {cs es : List Char} {escapes : List (List Char)}
      (hescapes : List.Forall₂ Escapes (String.utf8EncodeChar c) escapes) (h : Encodes cs es) :
      Encodes (c :: cs) (escapes.flatten ++ es)

/-! ### Escapes are resolved -/

theorem isHexDigit_narrow {n : Nat} {c : Char} (hn : n < 16) (h : IsHexDigit n c) :
    c.toNat < 0x80 := by
  rcases h with rfl | rfl <;> interval_cases n <;> decide

theorem hexValue?_of_isHexDigit {n : Nat} {c : Char} (hn : n < 16) (h : IsHexDigit n c) :
    hexValue? (UInt8.ofNat c.toNat) = some n := by
  rcases h with rfl | rfl <;> interval_cases n <;> decide

theorem decode_escape {b : UInt8} {es : List Char} (h : Escapes b es) (rest : List UInt8) :
    decode (Utf8.encode es ++ rest) = b :: decode rest := by
  obtain ⟨hhigh, hlow⟩ := h
  rename_i high low
  have hbyte : b.toNat < 256 := b.toNat_lt
  have hhighDigit : b.toNat / 16 < 16 := by omega
  have hlowDigit : b.toNat % 16 < 16 := by omega
  have hbytes : Utf8.encode ['%', high, low] =
      [0x25, UInt8.ofNat high.toNat, UInt8.ofNat low.toNat] := by
    rw [Utf8.encode_cons, Utf8.encode_cons, Utf8.encode_cons,
      Utf8.encodeChar_of_narrow (isHexDigit_narrow hhighDigit hhigh),
      Utf8.encodeChar_of_narrow (isHexDigit_narrow hlowDigit hlow)]
    rfl
  have hescaped : escaped? (UInt8.ofNat high.toNat) (UInt8.ofNat low.toNat) = some b := by
    have hvalue : b.toNat / 16 * 16 + b.toNat % 16 = b.toNat := by omega
    simp only [escaped?, hexValue?_of_isHexDigit hhighDigit hhigh,
      hexValue?_of_isHexDigit hlowDigit hlow, Option.bind_eq_bind, Option.bind_some, hvalue,
      UInt8.ofNat_toNat]
  simp only [hbytes, List.cons_append, List.nil_append, decode, hescaped]

theorem decode_escapes {bytes : List UInt8} {escapes : List (List Char)}
    (h : List.Forall₂ Escapes bytes escapes) (rest : List UInt8) :
    decode (Utf8.encode escapes.flatten ++ rest) = bytes ++ decode rest := by
  induction h with
  | nil => rfl
  | cons hescape _ ih =>
      rw [List.flatten_cons, Utf8.encode_append, List.append_assoc, decode_escape hescape, ih,
        List.cons_append]

theorem percent_notMem_encodeChar {c : Char} (hc : c ≠ '%') :
    0x25 ∉ String.utf8EncodeChar c := by
  intro hmem
  rcases Nat.lt_or_ge c.toNat 0x80 with hnarrow | hwide
  · rw [Utf8.encodeChar_of_narrow hnarrow, List.mem_singleton] at hmem
    have hbyte := congrArg UInt8.toNat hmem
    rw [Utf8.toNat_byte (by omega)] at hbyte
    exact hc (Char.toNat_inj.mp hbyte.symm)
  · exact absurd (Utf8.wide_of_mem_encodeChar hwide _ hmem) (by decide)

theorem decode_encodes {cs es : List Char} (h : Encodes cs es) (rest : List UInt8) :
    decode (Utf8.encode es ++ rest) = Utf8.encode cs ++ decode rest := by
  induction h with
  | nil => rfl
  | literal hc _ ih =>
      rw [Utf8.encode_cons, List.append_assoc, decode_append (percent_notMem_encodeChar hc), ih,
        Utf8.encode_cons, List.append_assoc]
  | escaped hescapes _ ih =>
      rw [Utf8.encode_append, List.append_assoc, decode_escapes hescapes, ih, Utf8.encode_cons,
        List.append_assoc]

theorem repaired_encodes {s e : String} (h : Encodes s.toList e.toList) (r : String) :
    repaired (e ++ r) = s ++ repaired r := by
  apply repaired_of_bytesOf_append
  rw [bytesOf, String.toList_append, Utf8.encode_append, decode_encodes h, bytesOf]

end Text.Percent

/-! ### The first segment -/

theorem segment?_eq_some {fragment s rest : String}
    (hpath : dropLeading '/' (dropLeading '#' (Text.Percent.repaired fragment).toList) =
      s.toList ++ rest.toList)
    (hs : s ≠ "") (hslash : '/' ∉ s.toList) (hrest : rest.toList.takeWhile (· ≠ '/') = []) :
    segment? fragment = some s := by
  have hall : ∀ c ∈ s.toList, decide (c ≠ '/') = true := by
    intro c hc
    rw [decide_eq_true_iff]
    rintro rfl
    exact hslash hc
  have hfirst : (s.toList ++ rest.toList).takeWhile (· ≠ '/') = s.toList := by
    rw [List.takeWhile_append_of_pos hall, hrest, List.append_nil]
  have hne : s.toList ≠ [] := fun h => hs (String.toList_eq_nil_iff.mp h)
  simp only [segment?, hpath, hfirst, if_neg hne, String.ofList_toList]

theorem resolve_of_segment? {fragment s : String} (h : segment? fragment = some s) :
    (∀ panel : Panel, panel.name = s → resolve fragment = panel) ∧
      ((∀ panel : Panel, panel.name ≠ s) → resolve fragment = .home) := by
  have hresolve : resolve fragment = (Panel.ofName? s).getD .home := by
    rw [resolve, namedPanel?, h, Option.bind_some]
  rw [hresolve]
  constructor
  · rintro panel rfl
    rw [Panel.ofName?_name, Option.getD_some]
  · intro hnone
    cases hpanel : Panel.ofName? s with
    | none => rfl
    | some panel => exact absurd (Panel.ofName?_eq_some_iff.mp hpanel).symm (hnone panel)

theorem dropLeading_append {c : Char} {cs : List Char} (hne : cs ≠ []) (h : cs.head? ≠ some c)
    (rest : List Char) : dropLeading c (cs ++ rest) = cs ++ rest := by
  cases cs with
  | nil => exact absurd rfl hne
  | cons d cs => exact if_neg fun hd => h (congrArg some hd)

/-- A fragment leads to its first segment, with or without a mark or a slash before it, however the
segment is spelled and whatever comes after it. -/
theorem resolve_of_encodes (s e r : String) (hs : s ≠ "") (hslash : '/' ∉ s.toList)
    (he : Text.Percent.Encodes s.toList e.toList) (hr : r = "" ∨ ∃ t, r = "/" ++ t) :
    ∀ fragment, fragment = "#/" ++ e ++ r ∨ fragment = "/" ++ e ++ r ∨
        s.toList.head? ≠ some '#' ∧ fragment = e ++ r →
      segment? fragment = some s ∧
        (∀ panel : Panel, panel.name = s → resolve fragment = panel) ∧
        ((∀ panel : Panel, panel.name ≠ s) → resolve fragment = .home) := by
  intro fragment hfragment
  have hread := Text.Percent.repaired_encodes he r
  have hrest : (Text.Percent.repaired r).toList.takeWhile (· ≠ '/') = [] := by
    apply takeWhile_repaired_rest
    rcases hr with rfl | ⟨t, rfl⟩ <;> simp
  have hne : s.toList ≠ [] := fun h => hs (String.toList_eq_nil_iff.mp h)
  have hhead : s.toList.head? ≠ some '/' := fun h => hslash (List.mem_of_head? h)
  have hsegment : segment? fragment = some s := by
    refine segment?_eq_some ?_ hs hslash hrest
    rcases hfragment with rfl | rfl | ⟨hmark, rfl⟩
    · rw [String.append_assoc, Text.Percent.repaired_append (by decide), hread,
        String.toList_append, String.toList_append]
      rfl
    · rw [String.append_assoc, Text.Percent.repaired_append (by decide), hread,
        String.toList_append, String.toList_append]
      rfl
    · rw [hread, String.toList_append, dropLeading_append hne hmark,
        dropLeading_append hne hhead]
  exact ⟨hsegment, resolve_of_segment? hsegment⟩

/-- A panel under escapes, before an escape that is cut off, and a text that is no panel's name,
with a mark and a character of two bytes. -/
theorem resolve_of_escaped_letters :
    segment? "#/%66r-%76iew/%E2%8" = some "fr-view" ∧
      resolve "#/%66r-%76iew/%E2%8" = .receivers ∧
      segment? "/%23%c3%A9" = some "#é" ∧ resolve "/%23%c3%A9" = .home := by
  have hf : List.Forall₂ Text.Percent.Escapes (String.utf8EncodeChar 'f') [['%', '6', '6']] :=
    .cons ⟨.inl rfl, .inl rfl⟩ .nil
  have hv : List.Forall₂ Text.Percent.Escapes (String.utf8EncodeChar 'v') [['%', '7', '6']] :=
    .cons ⟨.inl rfl, .inl rfl⟩ .nil
  have hmark : List.Forall₂ Text.Percent.Escapes (String.utf8EncodeChar '#') [['%', '2', '3']] :=
    .cons ⟨.inl rfl, .inl rfl⟩ .nil
  have haccent : List.Forall₂ Text.Percent.Escapes (String.utf8EncodeChar 'é')
      [['%', 'c', '3'], ['%', 'A', '9']] :=
    .cons ⟨.inl rfl, .inl rfl⟩ (.cons ⟨.inr rfl, .inl rfl⟩ .nil)
  have hpanel : Text.Percent.Encodes "fr-view".toList "%66r-%76iew".toList := by
    refine .escaped hf (.literal (by decide) (.literal (by decide) (.escaped hv ?_)))
    exact .literal (by decide) (.literal (by decide) (.literal (by decide) .nil))
  have hother : Text.Percent.Encodes "#é".toList "%23%c3%A9".toList :=
    .escaped hmark (.escaped haccent .nil)
  obtain ⟨hsegment, hreceivers, -⟩ := resolve_of_encodes "fr-view" "%66r-%76iew" "/%E2%8"
    (by decide) (by decide) hpanel (.inr ⟨"%E2%8", rfl⟩) _ (.inl rfl)
  obtain ⟨hsegment', -, hhome⟩ := resolve_of_encodes "#é" "%23%c3%A9" ""
    (by decide) (by decide) hother (.inl rfl) _ (.inr (.inl rfl))
  have hunnamed : ∀ panel : Panel, panel.name ≠ "#é" := by
    intro panel
    cases panel <;> decide
  exact ⟨hsegment, hreceivers .receivers rfl, hsegment', hhome hunnamed⟩

end DetectorDashboard
