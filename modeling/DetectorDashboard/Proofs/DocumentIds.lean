import Mathlib.Data.List.Nodup
import Mathlib.Data.List.Perm.Basic
import DetectorDashboard.Http.Document
import DetectorDashboard.Proofs.ElementId
import DetectorDashboard.Proofs.Markup

/-! The ids of the dashboard's document. They depend on the heights of the tables only, and no id is
given twice: that of a row, or of a cell in a row, has a digit after the stem, which no other has,
and the digits are those of the row's number. -/

namespace DetectorDashboard

/-! ### Ids of rows -/

namespace UnitKind

/-- The ids of a row and of its cells. -/
def rowIds (kind : UnitKind) (i : Nat) : List String :=
  kind.rowId i :: kind.rowCellIds i

theorem toList_of_mem_rowIds {kind : UnitKind} {i : Nat} {id : String} (h : id ∈ kind.rowIds i) :
    ∃ rest, id.toList ++ ['-'] = kind.stem.toList ++ (Text.digits (i + 1) ++ '-' :: rest) := by
  rcases List.mem_cons.mp h with rfl | h
  · exact ⟨[], by simp [toList_rowId]⟩
  · obtain ⟨column, -, rfl⟩ := mem_rowCellIds.mp h
    exact ⟨column.toList ++ ['-'], by simp [toList_cellId]⟩

/-- An id belongs to one row at most. -/
theorem row_eq_of_mem_rowIds {kind kind' : UnitKind} {i j : Nat} {id : String}
    (hi : id ∈ kind.rowIds i) (hj : id ∈ kind'.rowIds j) : kind = kind' ∧ i = j := by
  obtain ⟨rest, hrest⟩ := toList_of_mem_rowIds hi
  obtain ⟨rest', hrest'⟩ := toList_of_mem_rowIds hj
  obtain ⟨hkind, hdigits⟩ := stem_injective (hrest.symm.trans hrest')
  obtain ⟨hdigits, -, -⟩ := Text.append_cons_inj (p := (· ≠ '-'))
    (fun _ hx => Text.ne_dash_of_mem_digits hx) (fun _ hx => Text.ne_dash_of_mem_digits hx)
    (by simp) (by simp) hdigits
  have := Text.digits_injective hdigits
  exact ⟨hkind, by omega⟩

theorem nodup_rowIds (kind : UnitKind) (i : Nat) : (kind.rowIds i).Nodup := by
  refine List.nodup_cons.mpr ⟨fun hmem => ?_, ?_⟩
  · obtain ⟨column, -, hcell⟩ := mem_rowCellIds.mp hmem
    have hlist := congrArg String.toList hcell
    rw [toList_cellId, toList_rowId, List.append_cancel_left_eq] at hlist
    exact absurd (congrArg List.length hlist) (by simp)
  · exact (nodup_columns kind).map fun c d h => (cellId_injective h).2.2

/-- The ids of several rows. -/
def tableRowIds (rows : Nat) (kind : UnitKind) : List String :=
  (List.range rows).flatMap kind.rowIds

theorem nodup_tableRowIds (rows : Nat) (kind : UnitKind) : (kind.tableRowIds rows).Nodup := by
  refine List.nodup_flatMap.mpr ⟨fun i _ => nodup_rowIds kind i, ?_⟩
  refine List.nodup_range.imp fun hne => ?_
  exact fun id hi hj => hne (row_eq_of_mem_rowIds hi hj).2

/-- Whether an id has a digit where those of rows have one. -/
def hasRowDigit (id : String) : Bool :=
  id.toList[2]?.any Char.isDigit

theorem hasRowDigit_of_mem_rowIds {kind : UnitKind} {i : Nat} {id : String}
    (h : id ∈ kind.rowIds i) : hasRowDigit id = true := by
  obtain ⟨d, ds, hdigits⟩ : ∃ d ds, Text.digits (i + 1) = d :: ds :=
    List.exists_cons_of_ne_nil Nat.toDigits_ne_nil
  have hd : d.isDigit = true :=
    Text.isDigit_of_mem_digits (n := i + 1) (hdigits ▸ List.mem_cons_self)
  have hstart : ∃ rest, id.toList = kind.stem.toList ++ d :: rest := by
    rcases List.mem_cons.mp h with rfl | h
    · exact ⟨ds, by rw [toList_rowId, hdigits]⟩
    · obtain ⟨column, -, rfl⟩ := mem_rowCellIds.mp h
      exact ⟨ds ++ '-' :: column.toList, by rw [toList_cellId, hdigits, List.cons_append]⟩
  obtain ⟨rest, hrest⟩ := hstart
  have hthird : id.toList[2]? = some d := by
    rw [hrest]
    cases kind <;> rfl
  rw [hasRowDigit, hthird]
  exact hd

end UnitKind

/-! ### Ids of the document -/

/-- The ids of a panel's content, where the tables have so many rows. -/
def panelIds (rows : UnitKind → Nat) : Panel → List String
  | .home => [CellId.apiVersion, CellId.adapters]
  | .detector =>
      [CellId.exposure, CellId.period, CellId.images, CellId.complete, CellId.state]
  | .receivers => "fr-table" :: UnitKind.receiver.tableRowIds (rows .receiver)
  | .processors => "fp-table" :: UnitKind.processor.tableRowIds (rows .processor)

/-- The ids of the document, in their order. -/
def documentIds (rows : UnitKind → Nat) : List String :=
  Panel.all.flatMap (fun panel => panel.name :: panelIds rows panel) ++ ["last-update"]

theorem filter_tableRowIds (rows : Nat) (kind : UnitKind) :
    (kind.tableRowIds rows).filter UnitKind.hasRowDigit = kind.tableRowIds rows := by
  refine List.filter_eq_self.mpr fun id hid => ?_
  obtain ⟨i, -, hi⟩ := List.mem_flatMap.mp hid
  exact UnitKind.hasRowDigit_of_mem_rowIds hi

theorem filter_not_tableRowIds (rows : Nat) (kind : UnitKind) :
    (kind.tableRowIds rows).filter (!UnitKind.hasRowDigit ·) = [] := by
  refine List.filter_eq_nil_iff.mpr fun id hid => ?_
  obtain ⟨i, -, hi⟩ := List.mem_flatMap.mp hid
  simp [UnitKind.hasRowDigit_of_mem_rowIds hi]

/-- The ids that stand before the rows of the first table, between the tables, and after them. -/
theorem documentIds_eq (rows : UnitKind → Nat) :
    documentIds rows =
      ["home-view", CellId.apiVersion, CellId.adapters, "detector-view", CellId.exposure,
        CellId.period, CellId.images, CellId.complete, CellId.state, "fr-view", "fr-table"] ++
      (UnitKind.receiver.tableRowIds (rows .receiver) ++ (["fp-view", "fp-table"] ++
        (UnitKind.processor.tableRowIds (rows .processor) ++ ["last-update"]))) := by
  simp [documentIds, Panel.all, panelIds, Panel.name]

theorem disjoint_tableRowIds (rows : UnitKind → Nat) :
    (UnitKind.receiver.tableRowIds (rows .receiver)).Disjoint
      (UnitKind.processor.tableRowIds (rows .processor)) := by
  intro id hr hp
  obtain ⟨i, -, hi⟩ := List.mem_flatMap.mp hr
  obtain ⟨j, -, hj⟩ := List.mem_flatMap.mp hp
  exact nomatch (UnitKind.row_eq_of_mem_rowIds hi hj).1

/-- No id is given twice, whatever the heights of the tables are. -/
theorem nodup_documentIds (rows : UnitKind → Nat) : (documentIds rows).Nodup := by
  -- those with the digit of a row and those without can be looked at apart
  rw [← (List.filter_append_perm UnitKind.hasRowDigit (documentIds rows)).nodup_iff]
  refine List.nodup_append'.mpr ⟨?_, ?_, fun id hrow hother => ?_⟩
  · rw [documentIds_eq]
    simp only [List.filter_append, filter_tableRowIds]
    change ([] ++ (_ ++ ([] ++ (_ ++ [])))).Nodup
    rw [List.nil_append, List.nil_append, List.append_nil]
    exact List.nodup_append'.mpr ⟨UnitKind.nodup_tableRowIds _ _, UnitKind.nodup_tableRowIds _ _,
      disjoint_tableRowIds rows⟩
  · rw [documentIds_eq]
    simp only [List.filter_append, filter_not_tableRowIds]
    decide
  · have hdigit := (List.mem_filter.mp hrow).2
    have hnone := (List.mem_filter.mp hother).2
    simp [hdigit] at hnone

/-! ### Ids of the parts of the document -/

namespace Html

theorem ids_append (d e : Document) : ids (d ++ e) = ids d ++ ids e :=
  List.flatMap_append

theorem ids_cons (t : Token) (d : Document) : ids (t :: d) = t.ids ++ ids d := rfl

theorem ids_flatMap {α : Type} (l : List α) (f : α → Document) :
    ids (l.flatMap f) = l.flatMap fun x => ids (f x) :=
  List.flatMap_assoc

theorem ids_element (name : String) (attributes : List Attribute) (content : Document) :
    ids (Token.element name attributes content) =
      attributes.filterMap (·.id?) ++ ids content := by
  simp [Token.element, ids, Token.ids]

end Html

namespace Http.Document

open Html

theorem ids_line (name : String) (attributes : List Attribute) (content : Html.Document) :
    ids (line name attributes content) = attributes.filterMap (·.id?) ++ ids content := by
  rw [line, ids_append, ids_element]
  exact List.append_nil _

theorem ids_label (name s : String) : ids (label name s) = [] := rfl

theorem ids_html (p : Page) (id : String) : ids (p.html id) = [] := by
  unfold Page.html
  cases p.get? id with
  | none => rfl
  | some cell => cases cell <;> rfl

theorem ids_cell (p : Page) (id : String) : ids (cell p id) = [id] := by
  rw [cell, ids_element, ids_html]
  rfl

theorem ids_valueRow (p : Page) (name id : String) : ids (valueRow p name id) = [id] := by
  rw [valueRow, ids_line, ids_append, ids_label, ids_cell]
  rfl

theorem ids_settingRow (p : Page) (name id action : String) :
    ids (settingRow p name id action) = [id] := by
  simp only [settingRow, ids_line, ids_append, ids_label, ids_cell, ids_element]
  rfl

theorem ids_homePanel (p : Page) (rows : UnitKind → Nat) :
    ids (homePanel p) = panelIds rows .home := by
  simp only [homePanel, ids_line, ids_append, ids_cons, ids_valueRow]
  rfl

theorem ids_detectorPanel (p : Page) (rows : UnitKind → Nat) :
    ids (detectorPanel p) = panelIds rows .detector := by
  simp only [detectorPanel, ids_line, ids_append, ids_cons, ids_valueRow, ids_settingRow]
  rfl

theorem ids_headingRow (kind : UnitKind) : ids (headingRow kind) = [] := by
  simp only [headingRow, ids_line, ids_append, ids_label, ids_flatMap]
  simp

theorem ids_unitRow (p : Page) (kind : UnitKind) (i : Nat) :
    ids (unitRow p kind i) = kind.rowIds i := by
  simp only [unitRow, ids_line, ids_append, ids_label, ids_cell, ids_flatMap]
  rw [← List.map_eq_flatMap]
  rfl

theorem ids_unitTable (p : Page) (kind : UnitKind) (tableRows : Nat) :
    ids (unitTable p kind tableRows) =
      (kind.stem ++ "-table") :: kind.tableRowIds (max tableRows (p.rowCount kind)) := by
  simp only [unitTable, ids_line, ids_append, ids_cons, ids_headingRow, ids_flatMap, ids_unitRow]
  rfl

theorem ids_writerForms : ids writerForms = [] := rfl

theorem ids_panelContent (p : Page) (tableRows : Nat) (panel : Panel) :
    ids (panelContent p tableRows panel) =
      panelIds (fun kind => max tableRows (p.rowCount kind)) panel := by
  cases panel with
  | home => exact ids_homePanel p _
  | detector => exact ids_detectorPanel p _
  | receivers => exact ids_unitTable p .receiver tableRows
  | processors =>
      simp only [panelContent, ids_append, ids_unitTable, ids_writerForms, List.append_nil]
      rfl

theorem ids_panelSection (s : Snapshot) (tableRows : Nat) (panel : Panel) :
    ids (panelSection s tableRows panel) =
      panel.name :: panelIds (fun kind => max tableRows (s.page.rowCount kind)) panel := by
  simp only [panelSection, ids_line, ids_append, ids_cons, ids_panelContent]
  split <;> rfl

theorem ids_body (s : Snapshot) (alerts : List String) (tableRows : Nat) :
    ids (body s alerts tableRows) =
      documentIds fun kind => max tableRows (s.page.rowCount kind) := by
  have hlink (panel : Panel) : ids (link s.panel panel) = [] := by
    simp only [link, ids_line]
    split <;> rfl
  have halert (alert : String) : ids (alertBox alert) = [] := rfl
  have hfooter : ids (footer s) = ["last-update"] := rfl
  have hnone {α : Type} (l : List α) : l.flatMap (fun _ => ([] : List String)) = [] := by simp
  simp only [body, ids_line, ids_append, ids_cons, ids_flatMap, hlink, halert, hfooter, hnone,
    ids_panelSection]
  rfl

theorem ids_head (s : Snapshot) (refreshSeconds : Nat) : ids (head s refreshSeconds) = [] := by
  have hrefresh : ids (refresh refreshSeconds) = [] := by
    unfold refresh
    split <;> rfl
  simp only [head, ids_line, ids_append, ids_cons, hrefresh]
  rfl

end Http.Document

/-- The ids of the document are settled by the heights of the tables. -/
theorem Http.ids_document (s : Snapshot) (alerts : List String) (refreshSeconds tableRows : Nat) :
    Html.ids (document s alerts refreshSeconds tableRows) =
      documentIds fun kind => max tableRows (s.page.rowCount kind) := by
  simp only [document, Html.ids_append, Html.ids_cons, Document.ids_line, Document.ids_head,
    Document.ids_body]
  rfl

end DetectorDashboard
