import DetectorDashboard.Proofs.DocumentMarkup

/-! Where the parts of the dashboard's document stand: every panel is a part of the document, every
single value a part of its panel, and every cell of a table a part of the row that its id names. A
table has one row for each number below its height, besides the heading. -/

namespace DetectorDashboard

open Html Html.Token

namespace Http.Document

theorem infix_flatMap {α β : Type} {l : List α} {x : α} (f : α → List β) (h : x ∈ l) :
    f x <:+: l.flatMap f := by
  rw [List.flatMap_def]
  exact List.infix_of_mem_flatten (List.mem_map_of_mem h)

theorem infix_element (name : String) (attributes : List Attribute) (content : Html.Document) :
    content <:+: element name attributes content :=
  ⟨[.openTag name attributes], [.closeTag name], rfl⟩

theorem infix_line (name : String) (attributes : List Attribute) (content : Html.Document) :
    content <:+: line name attributes content :=
  (infix_element name attributes content).trans List.infix_append_left

/-! ### Panels -/

theorem panelContent_infix_document (s : Snapshot) (alerts : List String)
    (refreshSeconds tableRows : Nat) (panel : Panel) :
    panelContent s.page tableRows panel <:+: document s alerts refreshSeconds tableRows := by
  have hsection : panelContent s.page tableRows panel <:+: panelSection s tableRows panel :=
    List.infix_append_right.trans (infix_line ..)
  have hall : panel ∈ Panel.all := by cases panel <;> decide
  have hbody : panelSection s tableRows panel <:+: body s alerts tableRows :=
    ((infix_flatMap _ hall).trans List.infix_append_right).trans
      (List.infix_append_left.trans (infix_line ..))
  have hdocument : body s alerts tableRows <:+: document s alerts refreshSeconds tableRows :=
    (List.infix_append_right.trans (infix_line ..)).trans List.infix_append_right
  exact hsection.trans (hbody.trans hdocument)

/-! ### Single values -/

theorem cell_infix_valueRow (p : Page) (name id : String) : cell p id <:+: valueRow p name id :=
  List.infix_append_right.trans (infix_line ..)

theorem cell_infix_settingRow (p : Page) (name id action : String) :
    cell p id <:+: settingRow p name id action :=
  (List.infix_append_of_infix_left List.infix_append_right).trans (infix_line ..)

theorem cell_infix_homePanel (p : Page) {id : String}
    (h : id ∈ [CellId.apiVersion, CellId.adapters]) : cell p id <:+: homePanel p := by
  refine List.IsInfix.trans ?_ (infix_line ..)
  simp only [List.mem_cons, List.not_mem_nil, or_false] at h
  rcases h with rfl | rfl
  · exact ((cell_infix_valueRow ..).trans (List.infix_cons List.infix_rfl)).trans
      List.infix_append_left
  · exact (cell_infix_valueRow ..).trans List.infix_append_right

theorem cell_infix_detectorPanel (p : Page) {id : String}
    (h : id ∈ [CellId.exposure, CellId.period, CellId.images, CellId.complete, CellId.state]) :
    cell p id <:+: detectorPanel p := by
  refine List.IsInfix.trans ?_ List.infix_append_left
  refine List.IsInfix.trans ?_ (infix_line ..)
  simp only [List.mem_cons, List.not_mem_nil, or_false] at h
  rcases h with rfl | rfl | rfl | rfl | rfl
  · iterate 4 refine List.infix_append_of_infix_left ?_
    exact (cell_infix_settingRow ..).trans (List.infix_cons List.infix_rfl)
  · iterate 3 refine List.infix_append_of_infix_left ?_
    exact (cell_infix_settingRow ..).trans List.infix_append_right
  · iterate 2 refine List.infix_append_of_infix_left ?_
    exact (cell_infix_settingRow ..).trans List.infix_append_right
  · refine List.infix_append_of_infix_left ?_
    exact (cell_infix_valueRow ..).trans List.infix_append_right
  · exact (cell_infix_valueRow ..).trans List.infix_append_right

theorem cell_infix_of_mem_single (p : Page) (tableRows : Nat) {id : String}
    (h : id ∈ CellId.single) : ∃ panel, cell p id <:+: panelContent p tableRows panel := by
  have hsplit : CellId.single = [CellId.apiVersion, CellId.adapters] ++
      [CellId.exposure, CellId.period, CellId.images, CellId.complete, CellId.state] := rfl
  rw [hsplit, List.mem_append] at h
  rcases h with h | h
  · exact ⟨.home, cell_infix_homePanel p h⟩
  · exact ⟨.detector, cell_infix_detectorPanel p h⟩

/-! ### Tables -/

/-- What stands between the tags of a table. -/
def tableContent (p : Page) (kind : UnitKind) (tableRows : Nat) : Html.Document :=
  newline :: headingRow kind ++
    (List.range (max tableRows (p.rowCount kind))).flatMap (unitRow p kind)

theorem unitTable_eq (p : Page) (kind : UnitKind) (tableRows : Nat) :
    unitTable p kind tableRows =
      line "table" [.of "id" (kind.stem ++ "-table")] (tableContent p kind tableRows) := rfl

/-- The panel that shows a table. -/
def tablePanel : UnitKind → Panel
  | .receiver => .receivers
  | .processor => .processors

theorem unitTable_infix_document (s : Snapshot) (alerts : List String)
    (refreshSeconds tableRows : Nat) (kind : UnitKind) :
    unitTable s.page kind tableRows <:+: document s alerts refreshSeconds tableRows := by
  have hpanel : unitTable s.page kind tableRows <:+:
      panelContent s.page tableRows (tablePanel kind) := by
    cases kind with
    | receiver => exact List.infix_rfl
    | processor => exact List.infix_append_left
  exact hpanel.trans (panelContent_infix_document ..)

theorem cell_infix_unitRow (p : Page) (kind : UnitKind) {i : Nat} {id : String}
    (h : id ∈ kind.rowCellIds i) : cell p id <:+: unitRow p kind i := by
  refine List.IsInfix.trans ?_ (infix_line ..)
  obtain ⟨column, hcolumn, rfl⟩ := UnitKind.mem_rowCellIds.mp h
  rcases List.mem_cons.mp hcolumn with rfl | hcolumn
  · exact List.infix_append_of_infix_left List.infix_append_right
  · exact List.infix_append_of_infix_right
      (infix_flatMap (fun column => cell p (kind.cellId i column)) hcolumn)

theorem cell_infix_unitTable (p : Page) {kind : UnitKind} {tableRows i : Nat} {id : String}
    (hi : i < max tableRows (p.rowCount kind)) (h : id ∈ kind.rowCellIds i) :
    cell p id <:+: unitTable p kind tableRows := by
  rw [unitTable_eq]
  refine List.IsInfix.trans ?_ (infix_line ..)
  refine List.infix_append_of_infix_right ?_
  exact (cell_infix_unitRow p kind h).trans (infix_flatMap _ (List.mem_range.mpr hi))

theorem count_line (name name' : String) (attributes : List Attribute) (content : Html.Document) :
    (line name' attributes content).count (.closeTag name) =
      content.count (.closeTag name) + if name' = name then 1 else 0 := by
  simp [line, element, newline, List.count_cons]

theorem count_label (name name' s : String) :
    (label name' s).count (.closeTag name) = if name' = name then 1 else 0 := by
  simp [label, element, List.count_cons]

theorem count_cell (p : Page) (name id : String) :
    (cell p id).count (.closeTag name) = if "td" = name then 1 else 0 := by
  have hhtml : (p.html id).count (.closeTag name) = 0 := by
    unfold Page.html
    cases p.get? id with
    | none => rfl
    | some cell => cases cell <;> simp [Cell.html, Indicator.html]
  simp [cell, element, List.count_cons, hhtml]

theorem count_headingRow (kind : UnitKind) (name : String) (h : "th" ≠ name) :
    (headingRow kind).count (.closeTag name) = if "tr" = name then 1 else 0 := by
  simp [headingRow, count_line, count_label, h, List.count_flatMap, Function.comp_def]

theorem count_unitRow (p : Page) (kind : UnitKind) (i : Nat) (name : String) (h : "td" ≠ name) :
    (unitRow p kind i).count (.closeTag name) = if "tr" = name then 1 else 0 := by
  simp [unitRow, count_line, count_label, count_cell, h, List.count_flatMap, Function.comp_def]

/-- A table closes one row more than its height, and no table. -/
theorem count_tableContent (p : Page) (kind : UnitKind) (tableRows : Nat) :
    (tableContent p kind tableRows).count (.closeTag "table") = 0 ∧
      (tableContent p kind tableRows).count (.closeTag "tr") =
        max tableRows (p.rowCount kind) + 1 := by
  simp [tableContent, newline, count_headingRow, count_unitRow, List.count_flatMap,
    Function.comp_def, Nat.add_comm]

theorem filterMap_idOf?_line (name name' : String) (attributes : List Attribute)
    (content : Html.Document) :
    (line name' attributes content).filterMap (·.idOf? name) =
      ((openTag name' attributes).idOf? name).toList ++ content.filterMap (·.idOf? name) := by
  have hclose : (closeTag name').idOf? name = none := rfl
  have hnewline : newline.idOf? name = none := rfl
  cases hopen : (openTag name' attributes).idOf? name <;>
    simp [line, element, hopen, hclose, hnewline]

theorem filterMap_idOf?_label (name name' s : String) :
    (label name' s).filterMap (·.idOf? name) = [] := rfl

theorem filterMap_idOf?_cell (p : Page) {name : String} (h : "td" ≠ name) (id : String) :
    (cell p id).filterMap (·.idOf? name) = [] := by
  have hhtml : (p.html id).filterMap (·.idOf? name) = [] := by
    unfold Page.html
    cases p.get? id with
    | none => rfl
    | some cell =>
        cases cell with
        | indicator i => simp [Cell.html, Indicator.html, Token.idOf?, Attribute.id?, Attribute.of]
        | _ => rfl
  have hopen : (openTag "td" [.of "id" id]).idOf? name = none := if_neg h
  have hclose : (closeTag "td").idOf? name = none := rfl
  rw [cell, element, List.filterMap_append, List.filterMap_cons_none hopen, hhtml,
    List.filterMap_cons_none hclose]
  rfl

theorem filterMap_idOf?_unitRow (p : Page) (kind : UnitKind) (i : Nat) :
    (unitRow p kind i).filterMap (·.idOf? "tr") = [kind.rowId i] := by
  have hopen : (openTag "tr" [.of "id" (kind.rowId i)]).idOf? "tr" = some (kind.rowId i) := rfl
  have hcell (id : String) : (cell p id).filterMap (·.idOf? "tr") = [] :=
    filterMap_idOf?_cell p (by decide) id
  rw [unitRow, filterMap_idOf?_line, hopen, List.filterMap_append, List.filterMap_append,
    filterMap_idOf?_label, hcell, List.filterMap_flatMap]
  simp [hcell]

/-- The rows of a table are numbered from the first to the last. -/
theorem filterMap_idOf?_tableContent (p : Page) (kind : UnitKind) (tableRows : Nat) :
    (tableContent p kind tableRows).filterMap (·.idOf? "tr") =
      (List.range (max tableRows (p.rowCount kind))).map kind.rowId := by
  have hheading : (headingRow kind).filterMap (·.idOf? "tr") = [] := by
    rw [headingRow, filterMap_idOf?_line, List.filterMap_append, List.filterMap_append,
      filterMap_idOf?_label, filterMap_idOf?_label, List.filterMap_flatMap]
    simp only [filterMap_idOf?_label]
    simp [Token.idOf?]
  have hnewline : newline.idOf? "tr" = none := rfl
  rw [tableContent, List.filterMap_append, List.filterMap_cons_none hnewline, hheading,
    List.filterMap_flatMap, List.nil_append, List.map_eq_flatMap]
  simp only [filterMap_idOf?_unitRow]

end Http.Document

end DetectorDashboard
