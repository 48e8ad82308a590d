import DetectorDashboard.Html.Token
import DetectorDashboard.Proofs.Occurrence

/-! The markup of a document. Texts and values of attributes are escaped, so that quotation marks
and angle brackets are written by tags only. Hence every id that can be found in the text of a
document is that of an attribute, and every tag that can be found there is one of its tokens. -/

namespace DetectorDashboard.Html

open Text

/-! ### Escaped text -/

theorem of_mem_escapeChar {c d : Char} (h : c ∈ escapeChar d) :
    c ∉ ['"', '\'', '<', '>'] ∧ (c = '=' → d = '=') := by
  have hentity {s : String} (hs : s.toList.all (· ∉ ['=', '"', '\'', '<', '>']) = true)
      (hmem : c ∈ s.toList) : c ∉ ['"', '\'', '<', '>'] ∧ (c = '=' → d = '=') := by
    have hc := of_decide_eq_true (List.all_eq_true.mp hs c hmem)
    rw [List.mem_cons, not_or] at hc
    exact ⟨hc.2, fun heq => absurd heq hc.1⟩
  unfold escapeChar at h
  split at h
  iterate 5 exact hentity (by decide) h
  rw [List.mem_singleton] at h
  subst h
  simp_all

theorem notMem_escapeChars {c : Char} (hc : c ∈ ['"', '\'', '<', '>']) (cs : List Char) :
    c ∉ escapeChars cs := by
  intro hmem
  obtain ⟨d, -, hd⟩ := List.mem_flatMap.mp hmem
  exact (of_mem_escapeChar hd).1 hc

theorem equals_notMem_escapeChars {cs : List Char} (h : '=' ∉ cs) : '=' ∉ escapeChars cs := by
  intro hmem
  obtain ⟨d, hd, hequals⟩ := List.mem_flatMap.mp hmem
  exact h ((of_mem_escapeChar hequals).2 rfl ▸ hd)

/-! ### Plain markup -/

namespace Token

@[simp] theorem chars_doctype : doctype.chars = "<!DOCTYPE html>".toList := rfl

@[simp] theorem chars_openTag (name : String) (attributes : List Attribute) :
    (openTag name attributes).chars =
      '<' :: (name.toList ++ attributes.flatMap Attribute.chars ++ ['>']) := rfl

@[simp] theorem chars_closeTag (name : String) :
    (closeTag name).chars = '<' :: '/' :: (name.toList ++ ['>']) := rfl

@[simp] theorem chars_text (s : String) : (text s).chars = escapeChars s.toList := rfl

@[simp] theorem chars_entity (name : String) :
    (entity name).chars = '&' :: (name.toList ++ [';']) := rfl

end Token

@[simp] theorem chars_nil : chars [] = [] := rfl

@[simp] theorem chars_cons (t : Token) (d : Document) : chars (t :: d) = t.chars ++ chars d := rfl

@[simp] theorem chars_append (d e : Document) : chars (d ++ e) = chars d ++ chars e :=
  List.flatMap_append

/-- A character of the name of a tag or an attribute. -/
def isNameChar (c : Char) : Bool :=
  c.isAlphanum || c = '-'

def IsName (s : String) : Prop :=
  ∀ c ∈ s.toList, isNameChar c = true

instance : DecidablePred IsName := fun s =>
  decidable_of_iff (s.toList.all isNameChar = true) List.all_eq_true

theorem IsName.notMem {s : String} (h : IsName s) {c : Char} (hc : isNameChar c = false) :
    c ∉ s.toList := by
  intro hmem
  rw [h c hmem] at hc
  exact nomatch hc

/-- An attribute with a proper name, which ends in `id` only if it is `id`, and with a value that
does not itself look like an attribute. -/
def Attribute.IsPlain (a : Attribute) : Prop :=
  IsName a.name ∧
    (['i', 'd'] <:+ a.name.toList → a.name = "id") ∧ '=' ∉ (a.value.getD "").toList

instance : DecidablePred Attribute.IsPlain := fun _ =>
  inferInstanceAs (Decidable (_ ∧ (_ → _) ∧ _))

def Token.IsPlain : Token → Prop
  | .openTag name attributes =>
      IsName name ∧ ∀ a ∈ attributes, a.IsPlain
  | .closeTag name => IsName name
  | .entity name => IsName name
  | .doctype => True
  | .text _ => True

instance : DecidablePred Token.IsPlain := fun t =>
  match t with
  | .openTag _ _ => inferInstanceAs (Decidable (_ ∧ _))
  | .closeTag name => inferInstanceAs (Decidable (IsName name))
  | .entity name => inferInstanceAs (Decidable (IsName name))
  | .doctype => .isTrue trivial
  | .text _ => .isTrue trivial

def IsPlain (d : Document) : Prop :=
  ∀ t ∈ d, t.IsPlain

/-- The id that an attribute gives, if it is one that does. -/
def Attribute.id? (a : Attribute) : Option String :=
  if a.name = "id" then a.value else none

def Token.ids : Token → List String
  | .openTag _ attributes => attributes.filterMap (·.id?)
  | _ => []

/-- The ids of the elements of a document. -/
def ids (d : Document) : List String :=
  d.flatMap Token.ids

/-! ### The ids in the text of a document -/

/-- How the text of an id begins. -/
abbrev idMark : List Char := ['i', 'd', '=', '"']

/-- The texts between each occurrence of something and the next quotation mark. -/
def quotedAfter (needle s : List Char) : List (List Char) :=
  (occurrences needle s).map (·.takeWhile (· ≠ '"'))

theorem takeWhile_quoted {u : List Char} (hu : '"' ∉ u) (s : List Char) :
    (u ++ '"' :: s).takeWhile (· ≠ '"') = u := by
  have hall : ∀ c ∈ u, decide (c ≠ '"') = true := fun c hc =>
    decide_eq_true fun heq => hu (heq ▸ hc)
  rw [List.takeWhile_append_of_pos hall, List.takeWhile_cons_of_neg (by simp), List.append_nil]

/-- In a name that does not end in `id` no id begins. -/
theorem occurrences_name {name : List Char} (hname : '=' ∉ name)
    (hid : ¬ ['i', 'd'] <:+ name) (s : List Char) :
    occurrences idMark (name ++ '=' :: s) =
      occurrences idMark ('=' :: s) := by
  refine occurrences_append fun t ht _ hstarts => ?_
  obtain ⟨rest, hrest⟩ := hstarts
  have hsplit : ['i', 'd'] ++ '=' :: ('"' :: rest) = t ++ '=' :: s := hrest
  have heq := append_cons_inj (p := (· ≠ '=')) (by simp)
    (fun c hc heq => hname (ht.subset (heq ▸ hc))) (by simp) (by simp) hsplit
  exact hid (heq.1 ▸ ht)

theorem quotedAfter_eq_of_occurrences {needle s t : List Char}
    (h : occurrences needle s = occurrences needle t) :
    quotedAfter needle s = quotedAfter needle t :=
  congrArg (List.map _) h

/-- An attribute's value, and what follows it. -/
theorem quotedAfter_value {value : List Char} (hvalue : '=' ∉ value) (s : List Char) :
    quotedAfter idMark (value ++ '"' :: s) =
      quotedAfter idMark ('"' :: s) :=
  quotedAfter_eq_of_occurrences <| occurrences_append_cons ['i', 'd', '='] ⟨['"'], rfl⟩
    (by simp) hvalue (by simp)

theorem quotedAfter_valued {name value : List Char} (hname : '=' ∉ name)
    (hid : ['i', 'd'] <:+ name → name = ['i', 'd']) (hquote : '"' ∉ value) (hvalue : '=' ∉ value)
    (s : List Char) :
    quotedAfter idMark (name ++ '=' :: '"' :: (value ++ '"' :: s)) =
      (if name = ['i', 'd'] then [value] else []) ++
        quotedAfter idMark ('"' :: s) := by
  rw [← quotedAfter_value hvalue s]
  split
  · rename_i heq
    subst heq
    have hself := occurrences_self 'i' ['d', '=', '"'] (value ++ '"' :: s)
    have hskip : occurrences idMark (['d', '=', '"'] ++ (value ++ '"' :: s)) =
        occurrences idMark (value ++ '"' :: s) :=
      occurrences_append_of_head ['d', '=', '"'] (by simp)
    rw [hskip] at hself
    have hmap := congrArg (List.map (·.takeWhile (· ≠ '"'))) hself
    rw [List.map_cons, takeWhile_quoted hquote] at hmap
    exact hmap
  · rename_i hne
    refine quotedAfter_eq_of_occurrences ?_
    rw [occurrences_name hname fun h => hne (hid h)]
    exact occurrences_append_of_head ['=', '"'] (by simp)

/-- An attribute adds its id, and leaves a stretch in which no other begins. -/
theorem quotedAfter_attribute {a : Attribute} (h : a.IsPlain) {u : List Char} (hu : '=' ∉ u) :
    ∃ u', '=' ∉ u' ∧ ∀ s, quotedAfter idMark (u ++ (a.chars ++ s)) =
      a.id?.toList.map (fun v => escapeChars v.toList) ++ quotedAfter idMark (u' ++ s) := by
  obtain ⟨name, value⟩ := a
  obtain ⟨hname, hid, hvalue⟩ := h
  dsimp only at hname hid hvalue
  have hequals : '=' ∉ name.toList := IsName.notMem hname (by decide)
  cases value with
  | none =>
      refine ⟨u ++ ' ' :: name.toList, by simp [hu, hequals], fun s => ?_⟩
      simp [Attribute.chars, Attribute.id?]
  | some value =>
      rw [Option.getD_some] at hvalue
      refine ⟨['"'], by simp, fun s => ?_⟩
      have hskip (t : List Char) : occurrences idMark (u ++ ' ' :: t) = occurrences idMark t :=
        (occurrences_append_cons idMark List.prefix_rfl (by simp) hu (by simp)).trans
          (occurrences_append_of_head [' '] (by simp))
      have hiff : name.toList = ['i', 'd'] ↔ name = "id" :=
        ⟨fun heq => String.toList_injective heq, fun heq => heq ▸ rfl⟩
      have hchars : u ++ (Attribute.chars ⟨name, some value⟩ ++ s) =
          u ++ ' ' :: (name.toList ++ '=' :: '"' :: (escapeChars value.toList ++ '"' :: s)) := by
        simp [Attribute.chars]
      rw [hchars, quotedAfter_eq_of_occurrences (hskip _),
        quotedAfter_valued hequals (fun hsuffix => hiff.mpr (hid hsuffix))
          (notMem_escapeChars (by simp) _) (equals_notMem_escapeChars hvalue), Attribute.id?]
      by_cases heq : name = "id" <;> simp [heq, hiff]

theorem quotedAfter_attributes {attributes : List Attribute} (h : ∀ a ∈ attributes, a.IsPlain)
    {u : List Char} (hu : '=' ∉ u) (s : List Char) :
    quotedAfter idMark (u ++ (attributes.flatMap Attribute.chars ++ '>' :: s)) =
      (attributes.filterMap (·.id?)).map (fun v => escapeChars v.toList) ++
        quotedAfter idMark ('>' :: s) := by
  induction attributes generalizing u with
  | nil =>
      exact quotedAfter_eq_of_occurrences <| occurrences_append_cons idMark List.prefix_rfl
        (by simp) hu (by simp)
  | cons a rest ih =>
      obtain ⟨ha, hrest⟩ := List.forall_mem_cons.mp h
      obtain ⟨u', hu', heq⟩ := quotedAfter_attribute ha hu
      rw [List.flatMap_cons, List.append_assoc, heq, ih hrest hu', ← List.append_assoc,
        ← List.map_append]
      cases hid : a.id? <;> simp [hid]

/-- Only the attributes of an opening tag are quoted. -/
theorem quote_notMem_chars {t : Token} (h : t.IsPlain)
    (ht : ∀ name attributes, t ≠ .openTag name attributes) : '"' ∉ t.chars := by
  have hname (name : String) (hplain : IsName name) : '"' ∉ name.toList :=
    hplain.notMem (by decide)
  cases t with
  | openTag name attributes => exact absurd rfl (ht name attributes)
  | doctype => decide
  | closeTag name => simp [hname name h]
  | text s =>
      rw [Token.chars_text]
      exact notMem_escapeChars (by simp) _
  | entity name => simp [hname name h]

/-- The ids that stand in the text of a document are the ids of its elements. -/
theorem quotedAfter_chars {d : Document} (h : IsPlain d) {u : List Char} (hu : '"' ∉ u) :
    quotedAfter idMark (u ++ chars d) = (ids d).map fun id => escapeChars id.toList := by
  induction d generalizing u with
  | nil =>
      have hnone : occurrences idMark (u ++ chars []) = [] :=
        occurrences_eq_nil (c := '"') (by simp) (by simpa [chars] using hu)
      rw [quotedAfter, hnone]
      rfl
  | cons t d ih =>
      obtain ⟨ht, hd⟩ := List.forall_mem_cons.mp h
      by_cases hopen : ∃ name attributes, t = .openTag name attributes
      · obtain ⟨name, attributes, rfl⟩ := hopen
        have hname : '=' ∉ '<' :: name.toList := by
          rw [List.mem_cons, not_or]
          exact ⟨by decide, IsName.notMem ht.1 (by decide)⟩
        have hchars : u ++ chars (.openTag name attributes :: d) = u ++ '<' :: (name.toList ++
            (attributes.flatMap Attribute.chars ++ '>' :: chars d)) := by simp
        have hskip (s : List Char) : occurrences idMark (u ++ '<' :: s) =
            occurrences idMark ('<' :: s) :=
          occurrences_append_cons idMark List.prefix_rfl (c := '"') (by simp) hu (by simp)
        have hrest := ih hd (u := ['>']) (by simp)
        rw [hchars, quotedAfter_eq_of_occurrences (hskip _), ← List.cons_append,
          quotedAfter_attributes ht.2 hname, ← List.singleton_append, hrest, ← List.map_append]
        rfl
      · have hother : ∀ name attributes, t ≠ .openTag name attributes :=
          fun name attributes heq => hopen ⟨name, attributes, heq⟩
        have hids : ids (t :: d) = ids d := by
          cases t with
          | openTag name attributes => exact absurd rfl (hother name attributes)
          | _ => rfl
        have hlonger : '"' ∉ u ++ t.chars := by simp [hu, quote_notMem_chars ht hother]
        rw [chars_cons, ← List.append_assoc, ih hd hlonger, hids]

end DetectorDashboard.Html
