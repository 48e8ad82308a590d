import DetectorDashboard.Proofs.DocumentMarkup
import DetectorDashboard.Proofs.EscapedText
import DetectorDashboard.Proofs.TagSequence

/-! The alerts that a page shows, as they are read off its text: the text after each tag that opens
the box of an alert. Since a tag can be told from its text, and no other part of the document opens
such a box, these are the alerts that the document was made with, escaped and in their order. -/

namespace DetectorDashboard

namespace Html

/-! ### Tags that read alike -/

/-- An attribute can be told from its text. -/
theorem Attribute.chars_append_inj {a b : Attribute} (ha : a.IsPlain) (hb : b.IsPlain) {c d : Char}
    {s t : List Char} (hc : isNameChar c = false ∧ c ≠ '=') (hd : isNameChar d = false ∧ d ≠ '=')
    (h : a.chars ++ c :: s = b.chars ++ d :: t) : a = b ∧ c :: s = d :: t := by
  obtain ⟨name, value⟩ := a
  obtain ⟨name', value'⟩ := b
  have hname : ∀ {x y : Char} {r u : List Char}, isNameChar x = false → isNameChar y = false →
      name.toList ++ x :: r = name'.toList ++ y :: u → name = name' ∧ x = y ∧ r = u := by
    intro x y r u hx hy heq
    obtain ⟨hsame, hrest⟩ := Text.append_cons_inj (p := (isNameChar · = true)) ha.1 hb.1
      (by simp [hx]) (by simp [hy]) heq
    exact ⟨String.toList_injective hsame, hrest⟩
  cases value with
  | none =>
      cases value' with
      | none =>
          obtain ⟨rfl, rfl, rfl⟩ := hname hc.1 hd.1 (List.cons.inj h).2
          exact ⟨rfl, rfl⟩
      | some value' =>
          have heq : name.toList ++ c :: s = name'.toList ++ '=' :: ('"' ::
              (escapeChars value'.toList ++ '"' :: d :: t)) := by
            simpa [chars] using h
          exact absurd (hname hc.1 (by decide) heq).2.1 hc.2
  | some value =>
      have hleft : (Attribute.mk name (some value)).chars ++ c :: s = ' ' :: (name.toList ++
          '=' :: ('"' :: (escapeChars value.toList ++ '"' :: c :: s))) := by
        simp [chars]
      rw [hleft] at h
      cases value' with
      | none =>
          exact absurd (hname (by decide) hd.1 (List.cons.inj h).2).2.1.symm hd.2
      | some value' =>
          have heq : name.toList ++ '=' :: ('"' :: (escapeChars value.toList ++ '"' :: c :: s)) =
              name'.toList ++ '=' :: ('"' :: (escapeChars value'.toList ++ '"' :: d :: t)) := by
            simpa [chars] using h
          obtain ⟨rfl, -, hrest⟩ := hname (by decide) (by decide) heq
          have hquote (v : String) : ∀ x ∈ escapeChars v.toList, x ≠ '"' :=
            fun x hx hx' => notMem_escapeChars (by simp) _ (hx' ▸ hx)
          obtain ⟨hvalue, -, hafter⟩ := Text.append_cons_inj (p := (· ≠ '"')) (hquote value)
            (hquote value') (by simp) (by simp) (List.cons.inj hrest).2
          rw [String.toList_injective (escapeChars_injective hvalue)]
          exact ⟨rfl, hafter⟩

theorem attributes_inj {l m : List Attribute} (hl : ∀ a ∈ l, a.IsPlain) (hm : ∀ a ∈ m, a.IsPlain)
    (h : l.flatMap Attribute.chars ++ ['>'] = m.flatMap Attribute.chars ++ ['>']) : l = m := by
  have hstart (a : Attribute) : ∃ r, a.chars = ' ' :: r := by
    obtain ⟨name, value⟩ := a
    cases value <;> exact ⟨_, rfl⟩
  induction l generalizing m with
  | nil =>
      cases m with
      | nil => rfl
      | cons b m =>
          obtain ⟨r, hr⟩ := hstart b
          simp [hr] at h
  | cons a l ih =>
      obtain ⟨ha, hl⟩ := List.forall_mem_cons.mp hl
      cases m with
      | nil =>
          obtain ⟨r, hr⟩ := hstart a
          simp [hr] at h
      | cons b m =>
          obtain ⟨hb, hrestm⟩ := List.forall_mem_cons.mp hm
          obtain ⟨c, r, hcr, hc, -, hequals, -⟩ := chars_attributes l []
          obtain ⟨d, u, hdu, hd, -, hequals', -⟩ := chars_attributes m []
          rw [List.flatMap_cons, List.flatMap_cons, List.append_assoc, List.append_assoc, hcr,
            hdu] at h
          obtain ⟨rfl, hrest⟩ := Attribute.chars_append_inj ha hb ⟨hc, hequals⟩ ⟨hd, hequals'⟩ h
          rw [← hcr, ← hdu] at hrest
          rw [ih hl hrestm hrest]

/-- An opening tag can be told from its text. -/
theorem eq_openTag_of_chars_eq {t : Token} (h : t.IsPlain) (htag : t.isTag = true) {name : String}
    (hname : IsTagName name) {attributes : List Attribute}
    (hattributes : ∀ a ∈ attributes, a.IsPlain)
    (heq : t.chars = (Token.openTag name attributes).chars) : t = .openTag name attributes := by
  obtain ⟨c, cs, hchars, hc⟩ := hname.exists_cons
  cases t with
  | text s => exact nomatch htag
  | entity name => exact nomatch htag
  | doctype =>
      have hhead : '!' = c := by simpa [hchars] using congrArg (·.tail.head?) heq
      exact absurd hc (by simp [← hhead, isNameChar])
  | closeTag name' =>
      have hhead : '/' = c := by simpa [hchars] using congrArg (·.tail.head?) heq
      exact absurd hc (by simp [← hhead, isNameChar])
  | openTag name' attributes' =>
      obtain ⟨d, r, hdr, hd, -⟩ := chars_attributes attributes' []
      obtain ⟨d', r', hdr', hd', -⟩ := chars_attributes attributes []
      have hsplit : name'.toList ++ d :: r = name.toList ++ d' :: r' := by
        rw [← hdr, ← hdr']
        simpa using heq
      obtain ⟨hsame, rfl, rfl⟩ := Text.append_cons_inj (p := (isNameChar · = true)) h.1 hname.2
        (by simp [hd]) (by simp [hd']) hsplit
      rw [String.toList_injective hsame, attributes_inj h.2 hattributes (hdr.trans hdr'.symm)]

/-! ### What follows a tag -/

/-- What follows each tag that is written in one way, up to the next tag. -/
def textsAfter (tag s : List Char) : List String :=
  ((readText s).2.filter (·.1 = tag)).map fun p => String.ofList p.2

/-- The tokens that follow each tag of a document that is a certain one, up to the next tag. -/
def contentsAfter (tag : Token) : Document → List Document
  | [] => []
  | t :: d => if t = tag then (stretches d).1 :: contentsAfter tag d else contentsAfter tag d

theorem textsAfter_chars {d : Document} (h : IsPlain d) {name : String} (hname : IsTagName name)
    {attributes : List Attribute} (hattributes : ∀ a ∈ attributes, a.IsPlain) {mark : List Char}
    (hmark : (Token.openTag name attributes).chars = mark) :
    textsAfter mark (chars d) =
      (contentsAfter (.openTag name attributes) d).map fun content =>
        String.ofList (chars content) := by
  rw [textsAfter, readText_chars h]
  induction d with
  | nil => rfl
  | cons t d ih =>
      obtain ⟨ht, hd⟩ := List.forall_mem_cons.mp h
      have hrest := ih hd
      by_cases hsame : t = .openTag name attributes
      · subst hsame
        have htag : (Token.openTag name attributes).isTag = true := rfl
        rw [stretches, if_pos htag, contentsAfter, if_pos rfl, List.map_cons, hmark,
          List.filter_cons_of_pos (by simp), List.map_cons, List.map_cons, hrest]
      · cases htag : t.isTag with
        | false => simpa [stretches, contentsAfter, htag, hsame] using hrest
        | true =>
            have hchars : t.chars ≠ mark := fun heq =>
              hsame (eq_openTag_of_chars_eq ht htag hname hattributes (heq.trans hmark.symm))
            simpa [stretches, contentsAfter, htag, hsame, hchars] using hrest

theorem contentsAfter_append {tag : Token} {d : Document} (h : tag ∉ d) (e : Document) :
    contentsAfter tag (d ++ e) = contentsAfter tag e := by
  induction d with
  | nil => rfl
  | cons t d ih =>
      rw [List.mem_cons, not_or] at h
      rw [List.cons_append, contentsAfter, if_neg (Ne.symm h.1), ih h.2]

theorem contentsAfter_eq_nil {tag : Token} {d : Document} (h : tag ∉ d) :
    contentsAfter tag d = [] := by
  have hall := contentsAfter_append h []
  rwa [List.append_nil] at hall

/-! ### Boxes -/

/-- The tag that opens the box of an alert. -/
def alertTag : Token :=
  .openTag "div" [.of "class" "alert", .of "role" "alert"]

/-- The alerts that are shown in a text. -/
def alertTexts (s : List Char) : List String :=
  ((readText s).2.filter (·.1 = "<div class=\"alert\" role=\"alert\">".toList)).map
    fun p => String.ofList p.2

/-- What stands in the boxes of a document. -/
def boxes : Document → List Document
  | [] => []
  | t :: d => if t = alertTag then (stretches d).1 :: boxes d else boxes d

theorem boxes_eq (d : Document) : boxes d = contentsAfter alertTag d := by
  induction d with
  | nil => rfl
  | cons t d ih => rw [boxes, contentsAfter, ih]

theorem alertTexts_chars {d : Document} (h : IsPlain d) :
    alertTexts (chars d) = (boxes d).map fun content => String.ofList (chars content) := by
  have hmark : alertTag.chars = "<div class=\"alert\" role=\"alert\">".toList := by decide
  rw [boxes_eq]
  exact textsAfter_chars h (by decide) (by decide) hmark

theorem boxes_append {d : Document} (h : alertTag ∉ d) (e : Document) :
    boxes (d ++ e) = boxes e := by
  rw [boxes_eq, boxes_eq, contentsAfter_append h]

theorem boxes_eq_nil {d : Document} (h : alertTag ∉ d) : boxes d = [] := by
  rw [boxes_eq, contentsAfter_eq_nil h]

theorem boxes_alertBoxes (alerts : List String) (e : Document) :
    boxes (alerts.flatMap Http.Document.alertBox ++ e) =
      alerts.map (fun alert => [.text alert]) ++ boxes e := by
  induction alerts with
  | nil => rfl
  | cons alert alerts ih =>
      rw [List.flatMap_cons, List.append_assoc, List.map_cons, List.cons_append, ← ih]
      rfl

end Html

/-! ### The dashboard's document -/

open Html Html.Token

namespace Http.Document

theorem alertTag_notMem_html (p : Page) (id : String) : alertTag ∉ p.html id := by
  unfold Page.html
  cases p.get? id with
  | none => simp
  | some cell => cases cell <;> simp [Cell.html, Indicator.html, alertTag]

theorem alertTag_notMem_panelSection (s : Snapshot) (tableRows : Nat) (panel : Panel) :
    alertTag ∉ panelSection s tableRows panel := by
  have hcell := alertTag_notMem_html s.page
  simp only [alertTag, Attribute.of] at hcell
  cases panel
  all_goals
    simp [panelSection, panelContent, homePanel, detectorPanel, unitTable, writerForms, valueRow,
      settingRow, headingRow, unitRow, actionForm, inputLabel, submitButton, form, label, cell,
      line, element, newline, alertTag, Attribute.of, hcell]

/-- What stands before the alerts. -/
def beforeAlerts (s : Snapshot) (refreshSeconds : Nat) : Html.Document :=
  [.doctype, newline, openTag "html" [.of "lang" "en"], newline] ++ head s refreshSeconds
    ++ [openTag "body" [], newline]
    ++ line "nav" [] (newline :: Panel.all.flatMap (link s.panel))

/-- What stands after the alerts. -/
def afterAlerts (s : Snapshot) (tableRows : Nat) : Html.Document :=
  Panel.all.flatMap (panelSection s tableRows) ++ footer s
    ++ [closeTag "body", newline, closeTag "html", newline]

theorem document_eq (s : Snapshot) (alerts : List String) (refreshSeconds tableRows : Nat) :
    document s alerts refreshSeconds tableRows =
      beforeAlerts s refreshSeconds ++
        (alerts.flatMap alertBox ++ afterAlerts s tableRows) := by
  simp [document, line, element, body, beforeAlerts, afterAlerts]

theorem alertTag_notMem_beforeAlerts (s : Snapshot) (refreshSeconds : Nat) :
    alertTag ∉ beforeAlerts s refreshSeconds := by
  have hrefresh : alertTag ∉ refresh refreshSeconds := by
    unfold refresh
    split <;> simp [alertTag, newline]
  simp only [alertTag, Attribute.of] at hrefresh
  simp [beforeAlerts, head, line, element, newline, link, alertTag, Attribute.of, hrefresh]

theorem alertTag_notMem_afterAlerts (s : Snapshot) (tableRows : Nat) :
    alertTag ∉ afterAlerts s tableRows := by
  have hfooter : alertTag ∉ footer s := by
    simp [footer, line, element, newline, alertTag]
  have hsections : alertTag ∉ Panel.all.flatMap (panelSection s tableRows) := by
    intro hmem
    obtain ⟨panel, -, hpanel⟩ := List.mem_flatMap.mp hmem
    exact alertTag_notMem_panelSection s tableRows panel hpanel
  simp only [afterAlerts, List.mem_append, not_or]
  exact ⟨⟨hsections, hfooter⟩, by simp [alertTag, newline]⟩

end Http.Document

/-- The alerts that a page shows are those it was made with, escaped and in their order. -/
theorem alertTexts_document (s : Snapshot) (alerts : List String)
    (refreshSeconds tableRows : Nat) :
    alertTexts (render (Http.document s alerts refreshSeconds tableRows)).toList =
      alerts.map escape := by
  have hboxes : boxes (Http.document s alerts refreshSeconds tableRows) =
      alerts.map fun alert => [.text alert] := by
    rw [Http.Document.document_eq,
      boxes_append (Http.Document.alertTag_notMem_beforeAlerts s refreshSeconds), boxes_alertBoxes,
      boxes_eq_nil (Http.Document.alertTag_notMem_afterAlerts s tableRows), List.append_nil]
  rw [render, String.toList_ofList, alertTexts_chars (Http.isPlain_document s alerts _ _), hboxes,
    List.map_map]
  refine List.map_congr_left fun alert _ => ?_
  simp [escape]

end DetectorDashboard
