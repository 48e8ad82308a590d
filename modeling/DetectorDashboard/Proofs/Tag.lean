import Mathlib.Data.List.Nodup
import DetectorDashboard.Proofs.Markup

/-! The tags in the text of a document. A left angle bracket begins a tag of the document, and a tag
can be told from its text; so what is looked for between angle brackets is found where the document
has it as a token and nowhere else. -/

namespace DetectorDashboard.Html

open Text

namespace Token

def isTag : Token → Bool
  | .doctype | .openTag .. | .closeTag _ => true
  | .text _ | .entity _ => false

/-- The id of an opening tag of some name, if it is the first of its attributes. -/
def idOf? (name : String) : Token → Option String
  | .openTag name' (a :: _) => if name' = name then a.id? else none
  | _ => none

theorem mem_ids_of_idOf? {name id : String} {t : Token} (h : t.idOf? name = some id) :
    id ∈ t.ids := by
  cases t with
  | openTag name' attributes =>
      cases attributes with
      | nil => exact nomatch h
      | cons a rest =>
          simp only [idOf?] at h
          split at h
          · exact List.mem_filterMap.mpr ⟨a, List.mem_cons_self, h⟩
          · exact nomatch h
  | _ => exact nomatch h

end Token

theorem bracket_notMem_attributes {c : Char} (hc : c ∈ ['<', '>']) {attributes : List Attribute}
    (h : ∀ a ∈ attributes, a.IsPlain) : c ∉ attributes.flatMap Attribute.chars := by
  intro hmem
  have hnot : isNameChar c = false ∧ c ≠ ' ' ∧ c ≠ '=' ∧ c ≠ '"' ∧
      c ∈ ['"', '\'', '<', '>'] := by
    simp only [List.mem_cons, List.not_mem_nil, or_false] at hc
    rcases hc with rfl | rfl <;> decide
  obtain ⟨hchar, hspace, hequals, hquote, hescape⟩ := hnot
  obtain ⟨⟨name, value⟩, ha, hvalue⟩ := List.mem_flatMap.mp hmem
  have hname : c ∉ name.toList := IsName.notMem (h _ ha).1 hchar
  cases value with
  | none => simp [Attribute.chars, hname, hspace] at hvalue
  | some value =>
      have htext := notMem_escapeChars hescape value.toList
      simp [Attribute.chars, hname, hspace, hequals, hquote, htext] at hvalue

/-- A tag has its brackets at its ends only. -/
theorem brackets_of_isTag {t : Token} (h : t.IsPlain) (htag : t.isTag = true) :
    ∃ r, t.chars = '<' :: (r ++ ['>']) ∧ '<' ∉ r ∧ '>' ∉ r := by
  have hname (name : String) (hplain : IsName name) : '<' ∉ name.toList ∧ '>' ∉ name.toList :=
    ⟨hplain.notMem (by decide), hplain.notMem (by decide)⟩
  cases t with
  | doctype => exact ⟨"!DOCTYPE html".toList, by decide, by decide, by decide⟩
  | openTag name attributes =>
      obtain ⟨hleft, hright⟩ := hname name h.1
      have hleft' := bracket_notMem_attributes (c := '<') (by simp) h.2
      have hright' := bracket_notMem_attributes (c := '>') (by simp) h.2
      exact ⟨name.toList ++ attributes.flatMap Attribute.chars, rfl, by simp [hleft, hleft'],
        by simp [hright, hright']⟩
  | closeTag name => exact ⟨'/' :: name.toList, rfl, by simp [hname name h], by simp [hname name h]⟩
  | text s => exact nomatch htag
  | entity name => exact nomatch htag

theorem chars_of_isTag {t : Token} (h : t.IsPlain) (htag : t.isTag = true) :
    ∃ r, t.chars = '<' :: r ∧ '<' ∉ r := by
  obtain ⟨r, hr, hleft, -⟩ := brackets_of_isTag h htag
  exact ⟨r ++ ['>'], hr, by simp [hleft]⟩

theorem bracket_notMem_chars {t : Token} (h : t.IsPlain) (htag : t.isTag = false) :
    '<' ∉ t.chars := by
  cases t with
  | text s =>
      rw [Token.chars_text]
      exact notMem_escapeChars (by simp) _
  | entity name =>
      have hname : '<' ∉ name.toList := IsName.notMem h (by decide)
      simp [hname]
  | _ => exact nomatch htag

/-! ### Looking for a tag -/

/-- A token that does not begin with what is looked for is passed over. -/
theorem occurrences_token {t : Token} (h : t.IsPlain) {needle s : List Char}
    (hnone : t.isTag = true → ¬ '<' :: needle <+: t.chars ++ s) :
    occurrences ('<' :: needle) (t.chars ++ s) = occurrences ('<' :: needle) s := by
  cases htag : t.isTag with
  | false => exact occurrences_append_of_head _ (bracket_notMem_chars h htag)
  | true =>
      have hfirst := hnone htag
      obtain ⟨r, hr, hrest⟩ := chars_of_isTag h htag
      rw [hr, List.cons_append] at hfirst ⊢
      rw [occurrences_cons_of_not hfirst, occurrences_append_of_head _ hrest]

theorem occurrences_chars {d : Document} (h : IsPlain d) {needle : List Char}
    (hnone : ∀ t ∈ d, t.isTag = true → ∀ s, ¬ '<' :: needle <+: t.chars ++ s) (s : List Char) :
    occurrences ('<' :: needle) (chars d ++ s) = occurrences ('<' :: needle) s := by
  induction d with
  | nil => rfl
  | cons t d ih =>
      obtain ⟨ht, hd⟩ := List.forall_mem_cons.mp h
      obtain ⟨hfirst, hrest⟩ := List.forall_mem_cons.mp hnone
      rw [chars_cons, List.append_assoc, occurrences_token ht fun htag => hfirst htag _,
        ih hd hrest]

/-! ### Opening tags with an id -/

/-- How an opening tag begins whose first attribute is an id. -/
def openMark (name : String) : List Char :=
  '<' :: (name.toList ++ [' ', 'i', 'd', '=', '"'])

/-- A proper name, with which no closing tag and no declaration begins. -/
def IsTagName (name : String) : Prop :=
  name ≠ "" ∧ IsName name

instance : DecidablePred IsTagName := fun _ => inferInstanceAs (Decidable (_ ∧ _))

theorem IsTagName.exists_cons {name : String} (h : IsTagName name) :
    ∃ c cs, name.toList = c :: cs ∧ isNameChar c = true := by
  cases hchars : name.toList with
  | nil => exact absurd (String.toList_injective hchars) h.1
  | cons c cs => exact ⟨c, cs, rfl, h.2 c (hchars ▸ List.mem_cons_self)⟩

theorem chars_attributes (attributes : List Attribute) (s : List Char) :
    ∃ c r, attributes.flatMap Attribute.chars ++ '>' :: s = c :: r ∧ isNameChar c = false ∧
      (c = ' ' → attributes ≠ []) ∧ c ≠ '=' ∧ c ≠ '/' := by
  cases attributes with
  | nil => exact ⟨'>', s, rfl, by decide, nofun, by decide, by decide⟩
  | cons a rest =>
      obtain ⟨name, value⟩ := a
      cases value <;> exact ⟨' ', _, rfl, by decide, nofun, by decide, by decide⟩

/-- The first attribute, if it reads as an id. -/
theorem id?_of_chars_eq {a : Attribute} (ha : a.IsPlain) {attributes : List Attribute}
    {s rest : List Char} (heq : a.chars ++ (attributes.flatMap Attribute.chars ++ '>' :: s) =
      ' ' :: 'i' :: 'd' :: '=' :: '"' :: rest) :
    ∃ id, a.id? = some id ∧ rest =
      escapeChars id.toList ++ '"' :: (attributes.flatMap Attribute.chars ++ '>' :: s) := by
  obtain ⟨name, value⟩ := a
  have hequals : '=' ∉ name.toList := IsName.notMem ha.1 (by decide)
  have hname : ∀ c ∈ name.toList, c ≠ '=' := fun c hc hc' => hequals (hc' ▸ hc)
  cases value with
  | none =>
      obtain ⟨c, r, hcr, hc, -, hne, -⟩ := chars_attributes attributes s
      have hsplit : name.toList ++ c :: r = ['i', 'd'] ++ '=' :: '"' :: rest := by
        simpa [Attribute.chars, hcr] using heq
      have hsame := append_cons_inj (p := (isNameChar · = true)) ha.1
        (by decide : IsName "id") (by simp [hc]) (by decide) hsplit
      exact absurd hsame.2.1 hne
  | some value =>
      have hsplit : name.toList ++ '=' :: ('"' :: (escapeChars value.toList ++
          '"' :: (attributes.flatMap Attribute.chars ++ '>' :: s))) =
          ['i', 'd'] ++ '=' :: '"' :: rest := by
        simpa [Attribute.chars] using heq
      obtain ⟨hid, -, hrest⟩ := append_cons_inj (p := (· ≠ '=')) hname (by simp) (by simp)
        (by simp) hsplit
      obtain rfl : name = "id" := String.toList_injective hid
      exact ⟨value, rfl, (List.cons.inj hrest).2.symm⟩

/-- An opening tag that begins so has the id that follows. -/
theorem idOf?_of_chars_eq {t : Token} (h : t.IsPlain) (htag : t.isTag = true) {name : String}
    (hname : IsTagName name) {s rest : List Char} (heq : t.chars ++ s = openMark name ++ rest) :
    ∃ id tail, t.idOf? name = some id ∧ rest = escapeChars id.toList ++ '"' :: tail := by
  obtain ⟨c, cs, hchars, hc⟩ := hname.exists_cons
  cases t with
  | text s => exact nomatch htag
  | entity name => exact nomatch htag
  | doctype =>
      have hhead : '!' = c := by simpa [openMark, hchars] using congrArg (·.tail.head?) heq
      exact absurd hc (by simp [← hhead, isNameChar])
  | closeTag name' =>
      have hhead : '/' = c := by simpa [openMark, hchars] using congrArg (·.tail.head?) heq
      exact absurd hc (by simp [← hhead, isNameChar])
  | openTag name' attributes =>
      obtain ⟨d, r, hdr, hd, hspace, -⟩ := chars_attributes attributes s
      have hsplit : name'.toList ++ d :: r =
          name.toList ++ ' ' :: 'i' :: 'd' :: '=' :: '"' :: rest := by
        simpa [openMark, hdr] using heq
      obtain ⟨hsame, rfl, hrest⟩ := append_cons_inj (p := (isNameChar · = true)) h.1 hname.2
        (by simp [hd]) (by decide) hsplit
      obtain rfl : name' = name := String.toList_injective hsame
      cases attributes with
      | nil => exact absurd rfl (hspace rfl)
      | cons a attributes =>
          rw [hrest, List.flatMap_cons, List.append_assoc] at hdr
          obtain ⟨id, hid, hrest⟩ := id?_of_chars_eq (h.2 a List.mem_cons_self) hdr
          exact ⟨id, _, by simp [Token.idOf?, hid], hrest⟩

theorem chars_of_idOf? {t : Token} {name id : String} (h : t.idOf? name = some id) :
    ∃ tail, t.chars = openMark name ++ (escapeChars id.toList ++ '"' :: tail) := by
  cases t with
  | openTag name' attributes =>
      cases attributes with
      | nil => simp [Token.idOf?] at h
      | cons a rest =>
          obtain ⟨key, value⟩ := a
          simp only [Token.idOf?, Attribute.id?] at h
          split at h
          · split at h
            · rename_i hname hid
              subst hname hid h
              exact ⟨rest.flatMap Attribute.chars ++ ['>'], by simp [openMark, Attribute.chars]⟩
            · cases h
          · cases h
  | _ => simp [Token.idOf?] at h

theorem isTag_of_idOf? {t : Token} {name id : String} (h : t.idOf? name = some id) :
    t.isTag = true := by
  cases t with
  | openTag name' attributes => rfl
  | _ => exact nomatch h

/-- The ids of the opening tags of a name, as they stand in the text. -/
theorem quotedAfter_openMark {d : Document} (h : IsPlain d) {name : String} (hname : IsTagName name)
    (s : List Char) : quotedAfter (openMark name) (chars d ++ s) =
      (d.filterMap (·.idOf? name)).map (fun id => escapeChars id.toList) ++
        quotedAfter (openMark name) s := by
  induction d with
  | nil => rfl
  | cons t d ih =>
      obtain ⟨ht, hd⟩ := List.forall_mem_cons.mp h
      rw [chars_cons, List.append_assoc]
      cases hid : t.idOf? name with
      | none =>
          rw [List.filterMap_cons_none hid, ← ih hd]
          refine quotedAfter_eq_of_occurrences (occurrences_token ht fun htag hstarts => ?_)
          obtain ⟨rest, hrest⟩ := hstarts
          obtain ⟨id, -, hsome, -⟩ := idOf?_of_chars_eq ht htag hname hrest.symm
          rw [hid] at hsome
          exact nomatch hsome
      | some id =>
          obtain ⟨tail, htail⟩ := chars_of_idOf? hid
          obtain ⟨r, hr, hbracket⟩ := chars_of_isTag ht (isTag_of_idOf? hid)
          have hcut : name.toList ++ [' ', 'i', 'd', '=', '"'] ++
              (escapeChars id.toList ++ '"' :: tail) = r :=
            (List.cons.inj (htail.symm.trans hr)).2
          have hself := occurrences_self '<' (name.toList ++ [' ', 'i', 'd', '=', '"'])
            (escapeChars id.toList ++ '"' :: (tail ++ (chars d ++ s)))
          have hskip : occurrences (openMark name) (name.toList ++ [' ', 'i', 'd', '=', '"'] ++
              (escapeChars id.toList ++ '"' :: (tail ++ (chars d ++ s)))) =
              occurrences (openMark name) (chars d ++ s) := by
            have hcat : name.toList ++ [' ', 'i', 'd', '=', '"'] ++
                (escapeChars id.toList ++ '"' :: (tail ++ (chars d ++ s))) =
                r ++ (chars d ++ s) := by
              rw [← hcut]
              simp
            rw [hcat]
            exact occurrences_append_of_head r hbracket
          have hchars : t.chars ++ (chars d ++ s) = '<' :: (name.toList ++
              [' ', 'i', 'd', '=', '"']) ++ (escapeChars id.toList ++
                '"' :: (tail ++ (chars d ++ s))) := by
            rw [htail]
            simp [openMark]
          have hoccurrences : occurrences (openMark name) (t.chars ++ (chars d ++ s)) =
              (escapeChars id.toList ++ '"' :: (tail ++ (chars d ++ s))) ::
                occurrences (openMark name) (chars d ++ s) := by
            rw [hchars]
            exact hself.trans (congrArg _ hskip)
          rw [quotedAfter, hoccurrences, List.map_cons,
            takeWhile_quoted (notMem_escapeChars (by simp) _), ← quotedAfter, ih hd,
            List.filterMap_cons_some hid]
          rfl

/-! ### Closing tags -/

def closeMark (name : String) : List Char :=
  '<' :: '/' :: (name.toList ++ ['>'])

theorem not_prefix_closeMark {t : Token} (h : t.IsPlain) (htag : t.isTag = true) {name : String}
    (hname : IsName name) (hne : t ≠ .closeTag name) (s : List Char) :
    ¬ closeMark name <+: t.chars ++ s := by
  rintro ⟨rest, hrest⟩
  cases t with
  | text s => exact nomatch htag
  | entity name => exact nomatch htag
  | doctype =>
      have hhead : '/' = '!' := by simpa [closeMark] using congrArg (·.tail.head?) hrest
      exact absurd hhead (by decide)
  | closeTag name' =>
      have hsplit : name.toList ++ '>' :: rest = name'.toList ++ '>' :: s := by
        simpa [closeMark] using hrest
      have hsame := append_cons_inj (p := (isNameChar · = true)) hname h (by decide) (by decide)
        hsplit
      exact hne (congrArg _ (String.toList_injective hsame.1).symm)
  | openTag name' attributes =>
      obtain ⟨c, r, hcr, hc, -, -, hne⟩ := chars_attributes attributes s
      have hsplit : [] ++ '/' :: (name.toList ++ '>' :: rest) = name'.toList ++ c :: r := by
        simpa [closeMark, hcr] using hrest
      have hsame := append_cons_inj (p := (isNameChar · = true)) (by simp) h.1 (by decide)
        (by simp [hc]) hsplit
      exact hne hsame.2.1.symm

/-- As many closing tags of a name stand in the text as in the document. -/
theorem length_occurrences_closeMark {d : Document} (h : IsPlain d) {name : String}
    (hname : IsName name) :
    (occurrences (closeMark name) (chars d)).length = d.count (.closeTag name) := by
  induction d with
  | nil => rfl
  | cons t d ih =>
      obtain ⟨ht, hd⟩ := List.forall_mem_cons.mp h
      rw [chars_cons, List.count_cons, ← ih hd]
      by_cases heq : t = .closeTag name
      · subst heq
        have hbracket : '<' ∉ '/' :: (name.toList ++ ['>']) := by
          simp [hname.notMem (c := '<') (by decide)]
        have hself := occurrences_self '<' ('/' :: (name.toList ++ ['>'])) (chars d)
        rw [occurrences_append_of_head _ hbracket] at hself
        have hlength := congrArg List.length hself
        simpa [closeMark] using hlength
      · have hskip : occurrences (closeMark name) (t.chars ++ chars d) =
            occurrences (closeMark name) (chars d) :=
          occurrences_token ht fun htag => not_prefix_closeMark ht htag hname heq _
        simp [hskip, heq]

/-! ### Elements with an id -/

/-- An opening tag whose only attribute is an id. -/
def idTag (name id : String) : List Char :=
  openMark name ++ (id.toList ++ ['"', '>'])

theorem not_prefix_idTag {t : Token} (h : t.IsPlain) (htag : t.isTag = true) {name id : String}
    (hname : IsTagName name) (hquote : '"' ∉ id.toList)
    (hid : ∀ id', t.idOf? name = some id' → escapeChars id'.toList ≠ id.toList) (s : List Char) :
    ¬ idTag name id <+: t.chars ++ s := by
  rintro ⟨rest, hrest⟩
  have heq : t.chars ++ s = openMark name ++ (id.toList ++ '"' :: '>' :: rest) := by
    rw [← hrest]
    simp [idTag]
  obtain ⟨id', tail, hsome, hsplit⟩ := idOf?_of_chars_eq h htag hname heq
  have hsame := append_cons_inj (p := (· ≠ '"')) (fun c hc hc' => hquote (hc' ▸ hc))
    (fun c hc hc' => notMem_escapeChars (by simp) _ (hc' ▸ hc)) (by simp) (by simp) hsplit
  exact hid id' hsome hsame.1.symm

theorem chars_element (name id : String) (content after : Document)
    (hid : escapeChars id.toList = id.toList) :
    chars (Token.element name [.of "id" id] content ++ after) =
      idTag name id ++ (chars content ++ closeMark name ++ chars after) := by
  simp [Token.element, Attribute.of, Attribute.chars, hid, idTag, openMark, closeMark]

/-- In a part of a document without the id, no element with the id is found. -/
theorem occurrences_idTag_of_notMem {d : Document} (h : IsPlain d) {name id : String}
    (hname : IsTagName name) (hescape : ∀ id' ∈ ids d, escapeChars id'.toList = id'.toList)
    (hquote : '"' ∉ id.toList) (hid : id ∉ ids d) (s : List Char) :
    occurrences (idTag name id) (chars d ++ s) = occurrences (idTag name id) s := by
  refine occurrences_chars h (fun t ht htag s => not_prefix_idTag (h t ht) htag hname hquote
    (fun id' hid' heq => ?_) s) s
  have hmem : id' ∈ ids d := List.mem_flatMap.mpr ⟨t, ht, Token.mem_ids_of_idOf? hid'⟩
  rw [hescape id' hmem] at heq
  exact hid (String.toList_injective heq ▸ hmem)

/-- Where ids are not repeated, an element with an id is found once, with its content. -/
theorem occurrences_idTag {d before content after : Document} {name id : String}
    (hd : d = before ++ (Token.element name [.of "id" id] content ++ after)) (h : IsPlain d)
    (hname : IsTagName name) (hescape : ∀ id' ∈ ids d, escapeChars id'.toList = id'.toList)
    (hnodup : (ids d).Nodup) :
    occurrences (idTag name id) (chars d) = [chars content ++ closeMark name ++ chars after] := by
  have hids : ids d = ids before ++ id :: (ids content ++ ids after) := by
    simp [hd, ids, Token.element, Token.ids, Attribute.of, Attribute.id?]
  have hmem : id ∈ ids d := by simp [hids]
  have hquote : '"' ∉ id.toList := hescape id hmem ▸ notMem_escapeChars (by simp) _
  have hbracket : '<' ∉ id.toList := hescape id hmem ▸ notMem_escapeChars (by simp) _
  have hnotName : '<' ∉ name.toList := hname.2.notMem (by decide)
  rw [hids, List.nodup_middle, List.nodup_cons, List.mem_append, not_or] at hnodup
  have hpart (part : Document) (hsub : part ⊆ d) (hnot : id ∉ ids part) (s : List Char) :
      occurrences (idTag name id) (chars part ++ s) = occurrences (idTag name id) s := by
    refine occurrences_idTag_of_notMem (fun t ht => h t (hsub ht)) hname (fun id' hid' => ?_)
      hquote hnot s
    obtain ⟨t, ht, hid'⟩ := List.mem_flatMap.mp hid'
    exact hescape id' (List.mem_flatMap.mpr ⟨t, hsub ht, hid'⟩)
  have hbefore := hpart before (by simp [hd]) hnodup.1.1
  have hafter := hpart (content ++ .closeTag name :: after) (by simp [hd, Token.element])
    (by simpa [ids, Token.ids] using hnodup.1.2) []
  have hrest : chars (content ++ .closeTag name :: after) ++ [] =
      chars content ++ closeMark name ++ chars after := by simp [closeMark]
  have hstretch : '<' ∉ name.toList ++ [' ', 'i', 'd', '=', '"'] ++ (id.toList ++ ['"', '>']) := by
    simp [hnotName, hbracket]
  have hself := occurrences_self '<' (name.toList ++ [' ', 'i', 'd', '=', '"'] ++
    (id.toList ++ ['"', '>'])) (chars content ++ closeMark name ++ chars after)
  rw [occurrences_append_of_head _ hstretch] at hself
  rw [hd, chars_append, hbefore, chars_element _ _ _ _ (hescape id hmem)]
  refine hself.trans (congrArg _ ?_)
  rw [← hrest]
  exact hafter

end DetectorDashboard.Html
