import DetectorDashboard.Proofs.DocumentMarkup
import DetectorDashboard.Proofs.TagSequence

/-! The markup of the dashboard's document does not depend on what it says. Two snapshots of the
same shape differ in their title, in the version of the control server and in the texts of cells;
their documents, with as many alerts in the one as in the other, have the same tags, and between two
tags they differ by those texts only, each of them escaped. So no text can add a tag, end one or
change one. -/

namespace DetectorDashboard

open Html

/-! ### Snapshots of the same shape -/

/-- Cells of the same kind, of which only the texts may differ. -/
inductive Cell.SameKind : Cell → Cell → Prop where
  | empty : SameKind .empty .empty
  | text (u v : String) : SameKind (.text u) (.text v)
  | indicator (i : Indicator) : SameKind (.indicator i) (.indicator i)

namespace Snapshot

structure SameShape (s s' : Snapshot) : Prop where
  panel_eq : s.panel = s'.panel
  updatedAt_eq : s.page.updatedAt = s'.page.updatedAt
  cells : ∀ id, Option.Rel Cell.SameKind (s.page.get? id) (s'.page.get? id)

/-- The texts that stand in the same place of two snapshots, or of two lists of alerts. -/
inductive Respective (s s' : Snapshot) (alerts alerts' : List String) : String → String → Prop where
  | title : Respective s s' alerts alerts' s.title s'.title
  | apiVersion : Respective s s' alerts alerts' s.apiVersion s'.apiVersion
  | cell {id u v : String} (hu : s.page.get? id = some (.text u))
      (hv : s'.page.get? id = some (.text v)) : Respective s s' alerts alerts' u v
  | alert {i : Nat} {u v : String} (hu : alerts[i]? = some u) (hv : alerts'[i]? = some v) :
      Respective s s' alerts alerts' u v

end Snapshot

namespace Page

/-- Pages with cells for the same ids. -/
def SameIds (p q : Page) : Prop :=
  ∀ id, (p.get? id).isSome = (q.get? id).isSome

variable {p q : Page}

theorem SameIds.size_eq (h : SameIds p q) : p.cells.size = q.cells.size := by
  have hmem (id : String) : id ∈ p.cells.keys ↔ id ∈ q.cells.keys := by
    simp only [Std.ExtTreeMap.mem_keys, Std.ExtTreeMap.mem_iff_isSome_getElem?]
    exact Bool.eq_iff_iff.mp (h id)
  have hperm : p.cells.keys.Perm q.cells.keys :=
    (List.perm_ext_iff_of_nodup Std.ExtTreeMap.nodup_keys Std.ExtTreeMap.nodup_keys).mpr hmem
  rw [← Std.ExtTreeMap.length_keys, ← Std.ExtTreeMap.length_keys]
  exact hperm.length_eq

/-- The height of a table is found by looking for cells, whatever they show. -/
theorem SameIds.rowCount_eq (h : SameIds p q) (kind : UnitKind) :
    p.rowCount kind = q.rowCount kind := by
  have hrows : p.hasRow kind = q.hasRow kind := funext fun i => h (kind.connectedId i)
  rw [rowCount, rowCount, h.size_eq, hrows]

end Page

namespace Snapshot.SameShape

variable {s s' : Snapshot}

theorem sameIds (h : s.SameShape s') : s.page.SameIds s'.page := fun id =>
  match s.page.get? id, s'.page.get? id, h.cells id with
  | _, _, .none => rfl
  | _, _, .some _ => rfl

end Snapshot.SameShape

/-! ### Parts of documents that are alike -/

namespace Html

variable {same : String → String → Prop}

theorem Alike.refl (d : Document) : Alike same d d :=
  List.forall₂_same.mpr fun t _ => .refl t

theorem Alike.append {d d' e e' : Document} (hd : Alike same d d') (he : Alike same e e') :
    Alike same (d ++ e) (d' ++ e') :=
  List.rel_append hd he

theorem Alike.of_text {u v : String} (h : same u v) : Alike same [.text u] [.text v] :=
  .cons (.text h) .nil

theorem Alike.element (name : String) (attributes : List Attribute) {d d' : Document}
    (h : Alike same d d') :
    Alike same (Token.element name attributes d) (Token.element name attributes d') :=
  .cons (.refl _) (h.append (.refl _))

theorem Alike.line (name : String) (attributes : List Attribute) {d d' : Document}
    (h : Alike same d d') :
    Alike same (Http.Document.line name attributes d) (Http.Document.line name attributes d') :=
  (h.element name attributes).append (.refl _)

theorem Alike.flatMap {α : Type} {l : List α} {f g : α → Document}
    (h : ∀ x, Alike same (f x) (g x)) : Alike same (l.flatMap f) (l.flatMap g) := by
  induction l with
  | nil => exact .nil
  | cons x l ih =>
      rw [List.flatMap_cons, List.flatMap_cons]
      exact (h x).append ih

end Html

/-! ### The parts of the dashboard's document -/

namespace Http.Document

variable {same : String → String → Prop} {p q : Page}

/-- Pages whose cells are alike, wherever they stand. -/
def AlikeCells (same : String → String → Prop) (p q : Page) : Prop :=
  ∀ id, Alike same (p.html id) (q.html id)

section

variable (h : AlikeCells same p q)

include h

theorem alike_cell (id : String) : Alike same (cell p id) (cell q id) :=
  (h id).element _ _

theorem alike_valueRow (name id : String) : Alike same (valueRow p name id) (valueRow q name id) :=
  ((Alike.refl _).append (alike_cell h id)).line _ _

theorem alike_settingRow (name id action : String) :
    Alike same (settingRow p name id action) (settingRow q name id action) :=
  (((Alike.refl _).append (alike_cell h id)).append (.refl _)).line _ _

theorem alike_homePanel : Alike same (homePanel p) (homePanel q) := by
  apply Alike.line
  exact (Alike.append (.cons (.refl _) (alike_valueRow h _ _)) (alike_valueRow h _ _))

theorem alike_detectorPanel : Alike same (detectorPanel p) (detectorPanel q) := by
  refine Alike.append (Alike.line _ _ ?_) (.refl _)
  refine .append (.append (.append (.append (.cons (.refl _) ?_) ?_) ?_) ?_) ?_
  · exact alike_settingRow h _ _ _
  · exact alike_settingRow h _ _ _
  · exact alike_settingRow h _ _ _
  · exact alike_valueRow h _ _
  · exact alike_valueRow h _ _

theorem alike_unitRow (kind : UnitKind) (i : Nat) :
    Alike same (unitRow p kind i) (unitRow q kind i) := by
  apply Alike.line
  refine Alike.append (.append (.refl _) (alike_cell h _)) ?_
  exact .flatMap fun column => alike_cell h _

theorem alike_unitTable (hids : p.SameIds q) (kind : UnitKind) (tableRows : Nat) :
    Alike same (unitTable p kind tableRows) (unitTable q kind tableRows) := by
  simp only [unitTable, hids.rowCount_eq kind]
  apply Alike.line
  exact Alike.append (.refl _) (.flatMap fun i => alike_unitRow h kind i)

theorem alike_panelContent (hids : p.SameIds q) (tableRows : Nat) (panel : Panel) :
    Alike same (panelContent p tableRows panel) (panelContent q tableRows panel) := by
  cases panel with
  | home => exact alike_homePanel h
  | detector => exact alike_detectorPanel h
  | receivers => exact alike_unitTable h hids .receiver tableRows
  | processors => exact (alike_unitTable h hids .processor tableRows).append (.refl _)

end

theorem alikeCells_of_sameShape {s s' : Snapshot} (h : s.SameShape s')
    (alerts alerts' : List String) :
    AlikeCells (s.Respective s' alerts alerts') s.page s'.page := by
  intro id
  have hcell := h.cells id
  unfold Page.html
  cases hp : s.page.get? id with
  | none =>
      cases hq : s'.page.get? id with
      | none => exact .refl _
      | some cell => rw [hp, hq] at hcell; exact nomatch hcell
  | some cell =>
      cases hq : s'.page.get? id with
      | none => rw [hp, hq] at hcell; exact nomatch hcell
      | some cell' =>
          rw [hp, hq] at hcell
          cases hcell with
          | some hkind =>
              cases hkind with
              | empty => exact .refl _
              | text u v => exact .of_text (.cell hp hq)
              | indicator i => exact .refl _

section

variable {s s' : Snapshot} {alerts alerts' : List String}

theorem alike_panelSection (h : s.SameShape s') (tableRows : Nat) (panel : Panel) :
    Alike (s.Respective s' alerts alerts') (panelSection s tableRows panel)
      (panelSection s' tableRows panel) := by
  have hcells := alikeCells_of_sameShape h alerts alerts'
  simp only [panelSection, h.panel_eq]
  apply Alike.line
  exact Alike.append (.refl _) (alike_panelContent hcells h.sameIds tableRows panel)

theorem alike_alertBoxes (hlength : alerts.length = alerts'.length) :
    Alike (s.Respective s' alerts alerts')
      (alerts.flatMap alertBox) (alerts'.flatMap alertBox) := by
  have hpairs : List.Forall₂ (s.Respective s' alerts alerts') alerts alerts' := by
    refine List.forall₂_iff_get.mpr ⟨hlength, fun i hi hi' => ?_⟩
    exact .alert (List.getElem?_eq_getElem hi) (List.getElem?_eq_getElem hi')
  refine List.rel_flatMap hpairs fun u v huv => ?_
  exact (Alike.of_text huv).line _ _

theorem alike_body (h : s.SameShape s') (hlength : alerts.length = alerts'.length)
    (tableRows : Nat) :
    Alike (s.Respective s' alerts alerts')
      (body s alerts tableRows) (body s' alerts' tableRows) := by
  have hfooter : Alike (s.Respective s' alerts alerts') (footer s) (footer s') := by
    simp only [footer, h.updatedAt_eq]
    apply Alike.line
    exact .cons (.refl _) (.cons (.text .apiVersion) (Alike.refl _))
  have hpanels : Alike (s.Respective s' alerts alerts')
      (Panel.all.flatMap (panelSection s tableRows))
      (Panel.all.flatMap (panelSection s' tableRows)) :=
    .flatMap fun panel => alike_panelSection h tableRows panel
  simp only [body, h.panel_eq]
  apply Alike.line
  exact Alike.append (.append (.append (.refl _) (alike_alertBoxes hlength)) hpanels) hfooter

theorem alike_head (refreshSeconds : Nat) :
    Alike (s.Respective s' alerts alerts') (head s refreshSeconds) (head s' refreshSeconds) := by
  apply Alike.line
  exact Alike.append (.refl _) ((Alike.of_text .title).line _ _)

end

end Http.Document

theorem Http.alike_document {s s' : Snapshot} (h : s.SameShape s') {alerts alerts' : List String}
    (hlength : alerts.length = alerts'.length) (refreshSeconds tableRows : Nat) :
    Alike (s.Respective s' alerts alerts') (document s alerts refreshSeconds tableRows)
      (document s' alerts' refreshSeconds tableRows) := by
  refine Alike.append (.refl _) (Alike.line _ _ (.append (.cons (.refl _) ?_) ?_))
  · exact Document.alike_head refreshSeconds
  · exact Document.alike_body h hlength tableRows

/-- Whatever the title, the version, the texts of the cells and the alerts say, the document has the
same tags, and what stands between two tags is the same but for those texts, escaped. -/
theorem tags_of_document_eq {s s' : Snapshot} (h : s.SameShape s') {alerts alerts' : List String}
    (hlength : alerts.length = alerts'.length) (refreshSeconds tableRows : Nat) :
    let html := (render (Http.document s alerts refreshSeconds tableRows)).toList
    let html' := (render (Http.document s' alerts' refreshSeconds tableRows)).toList
    tags html = tags html' ∧
      List.Forall₂ (EqualUpTo (s.Respective s' alerts alerts'))
        (textsBetweenTags html) (textsBetweenTags html') := by
  intro html html'
  have hhtml : html = chars (Http.document s alerts refreshSeconds tableRows) :=
    String.toList_ofList
  have hhtml' : html' = chars (Http.document s' alerts' refreshSeconds tableRows) :=
    String.toList_ofList
  rw [hhtml, hhtml']
  exact tags_eq_of_alike (Http.alike_document h hlength refreshSeconds tableRows)
    (Http.isPlain_document s alerts _ _) (Http.isPlain_document s' alerts' _ _)

/-- Texts that try to end the title, to add a cell, to close an attribute and to add a script. -/
theorem tags_of_document_of_hostile_texts :
    let page (state : String) := Page.empty.set CellId.state (.text state)
    let s : Snapshot := ⟨"Eiger", .home, "0.1", page "idle"⟩
    let s' : Snapshot := ⟨"</title>", .home, "<td id=\"get-state\">", page "\" onclick='x'>"⟩
    let html := (render (Http.document s ["FAILED: no"] 2 4)).toList
    let html' := (render (Http.document s' ["<script>"] 2 4)).toList
    s.SameShape s' ∧ ["FAILED: no"].length = ["<script>"].length ∧ tags html = tags html' := by
  intro page s s' html html'
  have hshape : s.SameShape s' := by
    refine ⟨rfl, rfl, fun id => ?_⟩
    change Option.Rel _ ((page _).get? id) ((page _).get? id)
    rw [Page.get?_set, Page.get?_set]
    by_cases hid : CellId.state = id
    · rw [if_pos hid, if_pos hid]
      exact .some (.text _ _)
    · rw [if_neg hid, if_neg hid]
      exact .none
  have hlength : ["FAILED: no"].length = ["<script>"].length := rfl
  obtain ⟨htags, -⟩ := tags_of_document_eq hshape hlength 2 4
  exact ⟨hshape, hlength, htags⟩

end DetectorDashboard
