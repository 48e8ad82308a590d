import Mathlib.Data.List.Forall2
import DetectorDashboard.Proofs.Tag

/-! The tags of a text and what stands between them. A text is read from its start: a tag begins
with a left angle bracket and ends with the next right one. In the text of a plain document this
finds the tags of the document, since no other token has a left bracket and no tag has a right one
before its end. Two documents that have the same tokens but for some texts therefore have the same
tags, and between these they differ where the texts do. -/

namespace DetectorDashboard.Html

/-! ### Reading a text -/

mutual

/-- What stands before the first tag, and each tag with what stands between it and the next. -/
def readText : List Char → List Char × List (List Char × List Char)
  | [] => ([], [])
  | c :: s =>
      if c = '<' then ([], readTag ['<'] s)
      else (c :: (readText s).1, (readText s).2)

/-- The same from inside a tag, some of which has been read. A tag that is not closed runs on to
the end. -/
def readTag (read : List Char) : List Char → List (List Char × List Char)
  | [] => [(read, [])]
  | c :: s =>
      if c = '>' then (read ++ ['>'], (readText s).1) :: (readText s).2
      else readTag (read ++ [c]) s

end

/-- The tags in a text, from the first to the last. -/
def tags (s : List Char) : List (List Char) :=
  (readText s).2.map (·.1)

/-- What stands before the first tag, between two tags that follow one another, and after the
last. -/
def textsBetweenTags (s : List Char) : List (List Char) :=
  (readText s).1 :: (readText s).2.map (·.2)

theorem readText_append {text : List Char} (h : '<' ∉ text) (s : List Char) :
    readText (text ++ s) = (text ++ (readText s).1, (readText s).2) := by
  induction text with
  | nil => rfl
  | cons c text ih =>
      rw [List.mem_cons, not_or] at h
      have hc : c ≠ '<' := fun heq => h.1 heq.symm
      rw [List.cons_append, readText, if_neg hc, ih h.2, List.cons_append]

theorem readTag_append {rest : List Char} (h : '>' ∉ rest) (read s : List Char) :
    readTag read (rest ++ '>' :: s) =
      (read ++ rest ++ ['>'], (readText s).1) :: (readText s).2 := by
  induction rest generalizing read with
  | nil => rw [List.nil_append, readTag, if_pos rfl, List.append_nil]
  | cons c rest ih =>
      rw [List.mem_cons, not_or] at h
      have hc : c ≠ '>' := fun heq => h.1 heq.symm
      rw [List.cons_append, readTag, if_neg hc, ih h.2, List.append_assoc read,
        List.singleton_append]

/-! ### The text of a plain document -/

/-- The tokens before the first tag, and each tag with the tokens between it and the next. -/
def stretches : Document → Document × List (Token × Document)
  | [] => ([], [])
  | t :: d =>
      if t.isTag then ([], (t, (stretches d).1) :: (stretches d).2)
      else (t :: (stretches d).1, (stretches d).2)

/-- Reading the text of a plain document finds its tags, and the texts between them. -/
theorem readText_chars {d : Document} (h : IsPlain d) :
    readText (chars d) =
      (chars (stretches d).1, (stretches d).2.map fun p => (p.1.chars, chars p.2)) := by
  induction d with
  | nil => rfl
  | cons t d ih =>
      obtain ⟨ht, hd⟩ := List.forall_mem_cons.mp h
      cases htag : t.isTag with
      | false =>
          rw [chars_cons, readText_append (bracket_notMem_chars ht htag), ih hd]
          simp [stretches, htag]
      | true =>
          obtain ⟨r, hr, -, hclosed⟩ := brackets_of_isTag ht htag
          have hread : readText (chars (t :: d)) = ([], readTag ['<'] (r ++ '>' :: chars d)) := by
            rw [chars_cons, hr]
            simp [readText]
          rw [hread, readTag_append hclosed, ih hd]
          simp [stretches, htag, hr]

/-! ### Documents that differ in texts -/

/-- Tokens that are equal, or texts that correspond to one another. -/
inductive Token.Alike (same : String → String → Prop) : Token → Token → Prop where
  | refl (t : Token) : Alike same t t
  | text {u v : String} (h : same u v) : Alike same (.text u) (.text v)

/-- Texts that are equal but for escaped texts that correspond to one another. -/
inductive EqualUpTo (same : String → String → Prop) : List Char → List Char → Prop where
  | nil : EqualUpTo same [] []
  | cons (c : Char) {s t : List Char} (h : EqualUpTo same s t) : EqualUpTo same (c :: s) (c :: t)
  | text {u v : String} (huv : same u v) {s t : List Char} (h : EqualUpTo same s t) :
      EqualUpTo same ((escape u).toList ++ s) ((escape v).toList ++ t)

abbrev Alike (same : String → String → Prop) (d e : Document) : Prop :=
  List.Forall₂ (Token.Alike same) d e

section

variable {same : String → String → Prop} {d e : Document}

theorem Token.Alike.isTag_eq {t u : Token} (h : t.Alike same u) : t.isTag = u.isTag := by
  cases h <;> rfl

theorem Token.Alike.eq_of_isTag {t u : Token} (h : t.Alike same u) (htag : t.isTag = true) :
    t = u := by
  cases h with
  | refl => rfl
  | text h => exact nomatch htag

theorem EqualUpTo.append_left (r : List Char) {s t : List Char} (h : EqualUpTo same s t) :
    EqualUpTo same (r ++ s) (r ++ t) := by
  induction r with
  | nil => exact h
  | cons c r ih => exact ih.cons c

theorem Alike.equalUpTo (h : Alike same d e) : EqualUpTo same (chars d) (chars e) := by
  induction h with
  | nil => exact .nil
  | cons ht _ ih =>
      cases ht with
      | refl => exact ih.append_left _
      | text huv =>
          have htext := EqualUpTo.text huv ih
          simpa only [escape, String.toList_ofList, chars_cons, Token.chars_text] using htext

/-- Their tags are equal, and what stands between the tags is again alike. -/
theorem Alike.stretches (h : Alike same d e) :
    Alike same (stretches d).1 (stretches e).1 ∧
      List.Forall₂ (fun p q => p.1 = q.1 ∧ Alike same p.2 q.2)
        (stretches d).2 (stretches e).2 := by
  induction h with
  | nil => exact ⟨.nil, .nil⟩
  | @cons t u d e ht _ ih =>
      obtain ⟨hbefore, hafter⟩ := ih
      have heq := ht.isTag_eq
      cases htag : t.isTag with
      | false =>
          rw [htag] at heq
          simpa [Html.stretches, htag, ← heq] using ⟨⟨ht, hbefore⟩, hafter⟩
      | true =>
          obtain rfl := ht.eq_of_isTag htag
          simpa [Html.stretches, htag] using ⟨hbefore, hafter⟩

end

/-- Plain documents that are alike have the same tags, and the texts between the tags are equal but
for those that differ. -/
theorem tags_eq_of_alike {same : String → String → Prop} {d e : Document} (h : Alike same d e)
    (hd : IsPlain d) (he : IsPlain e) :
    tags (chars d) = tags (chars e) ∧
      List.Forall₂ (EqualUpTo same) (textsBetweenTags (chars d)) (textsBetweenTags (chars e)) := by
  obtain ⟨hbefore, hafter⟩ := h.stretches
  simp only [tags, textsBetweenTags, readText_chars hd, readText_chars he, List.map_map]
  refine ⟨?_, .cons hbefore.equalUpTo ?_⟩
  · rw [← List.forall₂_eq_eq_eq, List.forall₂_map_left_iff, List.forall₂_map_right_iff]
    exact hafter.imp fun p q hpq => congrArg Token.chars hpq.1
  · rw [List.forall₂_map_left_iff, List.forall₂_map_right_iff]
    exact hafter.imp fun p q hpq => hpq.2.equalUpTo

end DetectorDashboard.Html
