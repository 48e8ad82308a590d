import DetectorDashboard.Proofs.DocumentIds
import DetectorDashboard.Proofs.Tag

/-! The markup of the dashboard's document. Its tags are fixed but for the ids, the numbers of rows
and the lamps, none of which can pass for markup; whatever comes from the server or from the user
stands in texts. So the document is plain, and what it has of cells and tables is found in its text
where it was put, and nowhere else. -/

namespace DetectorDashboard

open Html

/-! ### Names -/

theorem Html.escapeChars_of_isName {s : String} (h : IsName s) :
    escapeChars s.toList = s.toList := by
  have hsame : ∀ c ∈ s.toList, escapeChar c = [c] := by
    intro c hc
    have hname := h c hc
    unfold escapeChar
    split
    iterate 5 exact absurd hname (by decide)
    rfl
  rw [escapeChars, List.flatMap_congr hsame, List.flatMap_singleton']

theorem Text.isName_decimal (n : Nat) : IsName (Text.decimal n) := by
  intro c hc
  have hdigit : c.isDigit = true := isDigit_of_mem_digits (n := n) (by simpa [decimal] using hc)
  simp [isNameChar, Char.isAlphanum, hdigit]

theorem Html.IsName.append {s t : String} (hs : IsName s) (ht : IsName t) : IsName (s ++ t) := by
  intro c hc
  rw [String.toList_append, List.mem_append] at hc
  exact hc.elim (hs c) (ht c)

theorem UnitKind.isName_of_mem_rowIds {kind : UnitKind} {i : Nat} {id : String}
    (h : id ∈ kind.rowIds i) : IsName id := by
  have hstem : IsName kind.stem := by cases kind <;> decide
  have hrow : IsName (kind.rowId i) := hstem.append (Text.isName_decimal (i + 1))
  rcases List.mem_cons.mp h with rfl | h
  · exact hrow
  · obtain ⟨column, hmem, rfl⟩ := mem_rowCellIds.mp h
    have hcolumns : ∀ column ∈ kind.columns, IsName column := by cases kind <;> decide
    exact (hrow.append (by decide)).append (hcolumns column hmem)

/-- All ids of the document are names. -/
theorem isName_of_mem_documentIds {rows : UnitKind → Nat} {id : String}
    (h : id ∈ documentIds rows) : IsName id := by
  have hrows (kind : UnitKind) (hid : id ∈ kind.tableRowIds (rows kind)) : IsName id := by
    obtain ⟨i, -, hi⟩ := List.mem_flatMap.mp hid
    exact UnitKind.isName_of_mem_rowIds hi
  rw [documentIds_eq] at h
  simp only [List.mem_append] at h
  rcases h with h | h | h | h | h
  · exact (by decide : ∀ id ∈ _, IsName id) id h
  · exact hrows .receiver h
  · exact (by decide : ∀ id ∈ _, IsName id) id h
  · exact hrows .processor h
  · exact (by decide : ∀ id ∈ _, IsName id) id h

/-! ### Plain parts -/

namespace Html

theorem isPlain_nil : IsPlain [] ↔ True := by
  simp [IsPlain]

theorem isPlain_cons {t : Token} {d : Document} : IsPlain (t :: d) ↔ t.IsPlain ∧ IsPlain d :=
  List.forall_mem_cons

theorem isPlain_append {d e : Document} : IsPlain (d ++ e) ↔ IsPlain d ∧ IsPlain e :=
  List.forall_mem_append

theorem isPlain_flatMap {α : Type} {l : List α} {f : α → Document} :
    IsPlain (l.flatMap f) ↔ ∀ x ∈ l, IsPlain (f x) := by
  simp only [IsPlain, List.mem_flatMap]
  exact ⟨fun h x hx t ht => h t ⟨x, hx, ht⟩, fun h t ⟨x, hx, ht⟩ => h x hx t ht⟩

theorem isPlain_element {name : String} {attributes : List Attribute} {content : Document} :
    IsPlain (Token.element name attributes content) ↔
      IsName name ∧ (∀ a ∈ attributes, a.IsPlain) ∧ IsPlain content := by
  rw [Token.element, isPlain_append, isPlain_cons, isPlain_cons]
  simp only [Token.IsPlain, isPlain_nil, and_true]
  constructor
  · rintro ⟨⟨⟨hname, ha⟩, hcontent⟩, -⟩
    exact ⟨hname, ha, hcontent⟩
  · rintro ⟨hname, ha, hcontent⟩
    exact ⟨⟨⟨hname, ha⟩, hcontent⟩, hname⟩

instance (d : Document) : Decidable (IsPlain d) :=
  inferInstanceAs (Decidable (∀ t ∈ d, t.IsPlain))

namespace Attribute

theorem isPlain_of {name value : String} : (of name value).IsPlain ↔
    (IsName name ∧ (['i', 'd'] <:+ name.toList → name = "id")) ∧ '=' ∉ value.toList :=
  and_assoc.symm

theorem isPlain_id {id : String} (h : IsName id) : (of "id" id).IsPlain :=
  isPlain_of.mpr ⟨by decide, h.notMem (by decide)⟩

end Attribute

end Html

theorem Indicator.isPlain_html (i : Indicator) : IsPlain i.html := by
  have hwidth : '=' ∉ (Text.decimal i.width.toNat ++ "px").toList :=
    ((Text.isName_decimal _).append (by decide)).notMem (by decide)
  have hicon : '=' ∉ ("img/" ++ i.icon ++ ".png").toList := by
    unfold Indicator.icon
    cases i.on <;> cases i.colour <;> decide
  have halt : '=' ∉ (if i.on then "on" else "off").toList := by
    cases i.on <;> decide
  rw [Indicator.html, isPlain_cons, isPlain_nil, and_true]
  refine ⟨by decide, ?_⟩
  simp only [List.forall_mem_cons, Attribute.isPlain_of]
  exact ⟨⟨by decide, hwidth⟩, ⟨by decide, hicon⟩, ⟨by decide, halt⟩, by simp⟩

namespace Http.Document

theorem isPlain_line {name : String} {attributes : List Attribute} {content : Html.Document} :
    IsPlain (line name attributes content) ↔
      IsName name ∧ (∀ a ∈ attributes, a.IsPlain) ∧ IsPlain content := by
  rw [line, isPlain_append, isPlain_element]
  exact and_iff_left (by decide)

theorem isPlain_html (p : Page) (id : String) : IsPlain (p.html id) := by
  unfold Page.html
  cases p.get? id with
  | none => decide
  | some cell =>
      cases cell with
      | empty => decide
      | text s => exact isPlain_cons.mpr ⟨trivial, by decide⟩
      | indicator i => exact i.isPlain_html

theorem isPlain_cell (p : Page) {id : String} (h : IsName id) : IsPlain (cell p id) := by
  rw [cell, isPlain_element]
  exact ⟨by decide, by simpa using Attribute.isPlain_id h, isPlain_html p id⟩

theorem isPlain_label {name s : String} (h : IsName name) : IsPlain (label name s) :=
  isPlain_element.mpr ⟨h, by simp, isPlain_cons.mpr ⟨trivial, by decide⟩⟩

theorem isPlain_valueRow (p : Page) (name : String) {id : String} (h : IsName id) :
    IsPlain (valueRow p name id) := by
  rw [valueRow, isPlain_line, isPlain_append]
  exact ⟨by decide, by simp, isPlain_label (by decide), isPlain_cell p h⟩

theorem isPlain_settingRow (p : Page) (name : String) {id action : String} (h : IsName id)
    (haction : '=' ∉ action.toList) : IsPlain (settingRow p name id action) := by
  have hform : ∀ a ∈ [Attribute.of "method" "post", .of "action" action], a.IsPlain := by
    simp only [List.forall_mem_cons, Attribute.isPlain_of]
    exact ⟨by decide, ⟨by decide, haction⟩, by simp⟩
  simp only [settingRow, form, isPlain_line, isPlain_append, isPlain_element]
  exact ⟨by decide, by simp, ⟨isPlain_label (by decide), isPlain_cell p h⟩, by decide, by simp,
    by decide, hform, by decide⟩

theorem isPlain_homePanel (p : Page) : IsPlain (homePanel p) := by
  rw [homePanel, isPlain_line, isPlain_append, isPlain_cons]
  exact ⟨by decide, by simp, ⟨by decide, isPlain_valueRow p _ (by decide)⟩,
    isPlain_valueRow p _ (by decide)⟩

theorem isPlain_detectorPanel (p : Page) : IsPlain (detectorPanel p) := by
  simp only [detectorPanel, isPlain_append, isPlain_line, isPlain_cons]
  refine ⟨⟨by decide, by simp, ⟨⟨⟨⟨by decide, ?_⟩, ?_⟩, ?_⟩, ?_⟩, ?_⟩, by decide⟩
  · exact isPlain_settingRow p _ (by decide) (by decide)
  · exact isPlain_settingRow p _ (by decide) (by decide)
  · exact isPlain_settingRow p _ (by decide) (by decide)
  · exact isPlain_valueRow p _ (by decide)
  · exact isPlain_valueRow p _ (by decide)

theorem isPlain_headingRow (kind : UnitKind) : IsPlain (headingRow kind) := by
  rw [headingRow, isPlain_line, isPlain_append, isPlain_append, isPlain_flatMap]
  exact ⟨by decide, by simp, ⟨isPlain_label (by decide), isPlain_label (by decide)⟩,
    fun name _ => isPlain_label (by decide)⟩

theorem isPlain_unitRow (p : Page) (kind : UnitKind) (i : Nat) : IsPlain (unitRow p kind i) := by
  have hname (id : String) (h : id ∈ kind.rowIds i) : IsName id := UnitKind.isName_of_mem_rowIds h
  rw [unitRow, isPlain_line, isPlain_append, isPlain_append, isPlain_flatMap]
  refine ⟨by decide, ?_, ⟨isPlain_label (by decide), isPlain_cell p (hname _ ?_)⟩,
    fun column hcolumn => isPlain_cell p (hname _ ?_)⟩
  · simpa using Attribute.isPlain_id (hname _ List.mem_cons_self)
  · exact List.mem_cons_of_mem _ List.mem_cons_self
  · exact List.mem_cons_of_mem _ (List.mem_cons_of_mem _ (List.mem_map_of_mem hcolumn))

theorem isPlain_unitTable (p : Page) (kind : UnitKind) (tableRows : Nat) :
    IsPlain (unitTable p kind tableRows) := by
  have hid : (Attribute.of "id" (kind.stem ++ "-table")).IsPlain := by cases kind <;> decide
  simp only [unitTable, isPlain_line, isPlain_append, isPlain_cons, isPlain_flatMap]
  exact ⟨by decide, by simpa using hid, ⟨by decide, isPlain_headingRow kind⟩,
    fun i _ => isPlain_unitRow p kind i⟩

theorem isPlain_panelContent (p : Page) (tableRows : Nat) (panel : Panel) :
    IsPlain (panelContent p tableRows panel) := by
  cases panel with
  | home => exact isPlain_homePanel p
  | detector => exact isPlain_detectorPanel p
  | receivers => exact isPlain_unitTable p .receiver tableRows
  | processors => exact isPlain_append.mpr ⟨isPlain_unitTable p .processor tableRows, by decide⟩

theorem isPlain_panelSection (s : Snapshot) (tableRows : Nat) (panel : Panel) :
    IsPlain (panelSection s tableRows panel) := by
  have hattributes : ∀ a ∈ [Attribute.of "id" panel.name, .of "class" panel.name] ++
      (if panel = s.panel then [] else [.bare "hidden"]), a.IsPlain := by
    refine List.forall_mem_append.mpr ⟨by cases panel <;> decide, ?_⟩
    split <;> decide
  rw [panelSection, isPlain_line, isPlain_append, isPlain_cons, isPlain_line]
  exact ⟨by decide, hattributes, ⟨by decide, by decide, by simp, isPlain_cons.mpr ⟨trivial,
    by decide⟩⟩, isPlain_panelContent s.page tableRows panel⟩

theorem isPlain_body (s : Snapshot) (alerts : List String) (tableRows : Nat) :
    IsPlain (body s alerts tableRows) := by
  have htext (s : String) : IsPlain [.text s] := isPlain_cons.mpr ⟨trivial, by decide⟩
  have hlink (panel : Panel) : IsPlain (link s.panel panel) := by
    have hattributes : ∀ a ∈ (Attribute.of "href" ("/view/" ++ panel.name)) ::
        (if panel = s.panel then [.of "aria-current" "page"] else []), a.IsPlain := by
      refine List.forall_mem_cons.mpr ⟨by cases panel <;> decide, ?_⟩
      split <;> decide
    exact isPlain_line.mpr ⟨by decide, hattributes, htext _⟩
  have halert (alert : String) : IsPlain (alertBox alert) :=
    isPlain_line.mpr ⟨by decide, by decide, htext alert⟩
  have hfooter : IsPlain (footer s) := by
    rw [footer, isPlain_line, isPlain_append, isPlain_element]
    refine ⟨by decide, by simp, ?_, by decide, by decide, htext _⟩
    simp only [isPlain_cons, isPlain_nil, and_true]
    exact ⟨trivial, trivial, trivial, by decide, trivial⟩
  simp only [body, isPlain_line, isPlain_append, isPlain_cons, isPlain_flatMap]
  exact ⟨by decide, by simp, ⟨⟨⟨by decide, by decide, by simp, by decide, fun panel _ =>
    hlink panel⟩, fun alert _ => halert alert⟩, fun panel _ =>
      isPlain_panelSection s tableRows panel⟩, hfooter⟩

theorem isPlain_head (s : Snapshot) (refreshSeconds : Nat) : IsPlain (head s refreshSeconds) := by
  have hrefresh : IsPlain (refresh refreshSeconds) := by
    unfold refresh
    split
    · decide
    · have hseconds : '=' ∉ (Text.decimal refreshSeconds).toList :=
        (Text.isName_decimal _).notMem (by decide)
      rw [isPlain_cons]
      refine ⟨⟨by decide, ?_⟩, by decide⟩
      simp only [List.forall_mem_cons, Attribute.isPlain_of]
      exact ⟨by decide, ⟨by decide, hseconds⟩, by simp⟩
  simp only [head, isPlain_line, isPlain_append, isPlain_cons]
  exact ⟨by decide, by simp, ⟨by decide, by decide, by decide, hrefresh⟩, by decide, by simp,
    trivial, by decide⟩

end Http.Document

theorem Http.isPlain_document (s : Snapshot) (alerts : List String)
    (refreshSeconds tableRows : Nat) : IsPlain (document s alerts refreshSeconds tableRows) := by
  simp only [document, isPlain_append, Document.isPlain_line, isPlain_cons]
  exact ⟨by decide, by decide, by decide, ⟨by decide, Document.isPlain_head s refreshSeconds⟩,
    Document.isPlain_body s alerts tableRows⟩

end DetectorDashboard
