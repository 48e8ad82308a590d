import DetectorDashboard.Proofs.DocumentParts
import DetectorDashboard.Proofs.LastResponses

/-! The document shows the whole page, and nothing twice. On every page that a dashboard can come
to, the rows of a table are a block, so that the search for its height finds all of them; each cell
of the page has one place in the document, and no text can make another. -/

namespace DetectorDashboard

open Html Text

namespace Dashboard

/-! ### Changes of a dashboard -/

inductive Change where
  | issue (endpoint : Endpoint)
  /-- A response arrives, which may be stale. -/
  | apply (now : Timestamp) (seq : Nat) (response : StatusResponse)
  | navigate (fragment : String)

def change (d : Dashboard) : Change → Dashboard
  | .issue endpoint => (d.issue endpoint).2
  | .apply now seq response => (d.accept? now seq response).getD d
  | .navigate fragment => d.navigate fragment

def changeAll (d : Dashboard) (changes : List Change) : Dashboard :=
  changes.foldl change d

/-- The response that a change brings onto the page. -/
def shown? (d : Dashboard) : Change → Option StatusResponse
  | .apply now seq response => (d.accept? now seq response).map fun _ => response
  | _ => none

/-- The responses that come onto the page, in their order. -/
def shown (d : Dashboard) : List Change → List StatusResponse
  | [] => []
  | change :: rest => (d.shown? change).toList ++ shown (d.change change) rest

end Dashboard

/-- The last of some responses that is one of an endpoint. -/
def lastOf? (responses : List StatusResponse) (e : Endpoint) : Option StatusResponse :=
  responses.reverse.find? (·.endpoint = e)

theorem lastOf?_concat (responses : List StatusResponse) (response : StatusResponse) :
    lastOf? (responses ++ [response]) =
      Function.update (lastOf? responses) response.endpoint (some response) := by
  funext e
  rw [lastOf?, List.reverse_append, List.reverse_singleton, List.singleton_append]
  by_cases he : response.endpoint = e
  · subst he
    rw [Function.update_self, List.find?_cons_of_pos (by simp)]
  · rw [Function.update_of_ne (Ne.symm he), List.find?_cons_of_neg (by simpa using he), lastOf?]

namespace Dashboard

theorem settings_accept? {d d' : Dashboard} {now : Timestamp} {seq : Nat}
    {response : StatusResponse} (h : d.accept? now seq response = some d') :
    d'.settings = d.settings ∧
      d'.page = (d.page.render d.settings.tableRows response).touch now := by
  obtain ⟨gate, -, rfl⟩ := Option.map_eq_some_iff.mp h
  exact ⟨rfl, rfl⟩

theorem settings_change (d : Dashboard) (c : Change) : (d.change c).settings = d.settings := by
  cases c with
  | issue endpoint => simp only [change, issue, setGate]
  | navigate fragment => simp only [change, navigate]
  | apply now seq response =>
      simp only [change]
      cases h : d.accept? now seq response with
      | none => simp only [Option.getD_none]
      | some d' => exact (settings_accept? h).1

/-- A change brings its response onto the page, in the place of the last one of the endpoint. -/
theorem shows_change {d : Dashboard} {responses : List StatusResponse}
    (h : d.page.Shows d.settings.tableRows (lastOf? responses)) (c : Change) :
    (d.change c).page.Shows d.settings.tableRows
      (lastOf? (responses ++ (d.shown? c).toList)) := by
  cases c with
  | issue endpoint => simpa [shown?, change, issue, setGate] using h
  | navigate fragment => simpa [shown?, change, navigate] using h
  | apply now seq response =>
      rw [change, shown?]
      cases haccept : d.accept? now seq response with
      | none => simpa using h
      | some d' =>
          have hpage := (settings_accept? haccept).2
          rw [Option.getD_some, Option.map_some, Option.toList_some, lastOf?_concat, hpage]
          exact (h.render response).touch now

theorem shows_changeAll (changes : List Change) {d : Dashboard} {responses : List StatusResponse}
    (h : d.page.Shows d.settings.tableRows (lastOf? responses)) :
    (d.changeAll changes).page.Shows d.settings.tableRows
      (lastOf? (responses ++ d.shown changes)) := by
  induction changes generalizing d responses with
  | nil => simpa [changeAll, shown] using h
  | cons c rest ih =>
      have hnext := shows_change h c
      rw [← settings_change d c] at hnext ⊢
      have hrest := ih hnext
      rw [List.append_assoc] at hrest
      exact hrest

/-- A reachable page shows the last responses. -/
theorem shows_ofSettings (settings : Settings) (changes : List Change) :
    ((ofSettings settings).changeAll changes).page.Shows settings.tableRows
      (lastOf? ((ofSettings settings).shown changes)) := by
  have hempty : (ofSettings settings).page.Shows settings.tableRows (lastOf? []) :=
    Page.shows_empty settings.tableRows
  exact shows_changeAll changes hempty

end Dashboard

/-! ### The document of a page that shows responses -/

section

variable {p : Page} {rows : Nat} {chosen : Endpoint → Option StatusResponse}

/-- How many rows of a table the document has. -/
def shownRows (rows : Nat) (chosen : Endpoint → Option StatusResponse) (kind : UnitKind) : Nat :=
  max rows (((chosen kind.endpoint).map (·.unitCount)).getD 0)

theorem Page.Shows.max_rowCount (h : p.Shows rows chosen) (kind : UnitKind) :
    max rows (p.rowCount kind) = shownRows rows chosen kind := by
  rw [(h.hasRows kind).rowCount_eq, shownRows, Page.chosenRows]
  cases chosen kind.endpoint with
  | none => rfl
  | some response => exact Nat.max_eq_right (Nat.le_max_left ..)

/-- Every cell of the page has its place in the document. -/
theorem Page.Shows.cell_infix_document {s : Snapshot} (h : s.page.Shows rows chosen) {id : String}
    {cell : Cell} (hcell : s.page.get? id = some cell) (alerts : List String)
    (refreshSeconds : Nat) :
    Http.Document.cell s.page id <:+: Http.document s alerts refreshSeconds rows := by
  obtain ⟨e, he⟩ : ∃ e : Endpoint, e.Owns id := by
    by_contra hnone
    rw [h.other id fun e he => hnone ⟨e, he⟩] at hcell
    exact nomatch hcell
  rcases he.cases with hmem | ⟨kind, -, i, hi⟩
  · have hsingle : id ∈ CellId.single := Endpoint.cellIds_subset_single e hmem
    obtain ⟨panel, hpanel⟩ := Http.Document.cell_infix_of_mem_single s.page rows hsingle
    exact hpanel.trans (Http.Document.panelContent_infix_document ..)
  · have hrows := h.hasRows kind
    -- beyond the block of rows there would be no cell
    have hlt : i < s.page.rowCount kind := by
      rw [hrows.rowCount_eq]
      by_contra hge
      rw [hrows.absent i (Nat.le_of_not_lt hge) id hi] at hcell
      exact nomatch hcell
    have hmax : i < max rows (s.page.rowCount kind) := Nat.lt_of_lt_of_le hlt (Nat.le_max_right ..)
    exact (Http.Document.cell_infix_unitTable s.page hmax hi).trans
      (Http.Document.unitTable_infix_document ..)

end

theorem ids_escaped (s : Snapshot) (alerts : List String) (refreshSeconds tableRows : Nat) :
    ∀ id ∈ ids (Http.document s alerts refreshSeconds tableRows),
      escapeChars id.toList = id.toList := by
  intro id hid
  rw [Http.ids_document] at hid
  exact escapeChars_of_isName (isName_of_mem_documentIds hid)

/-- Of every element that is a part of the document the text stands there once. -/
theorem occurrences_idTag_document {s : Snapshot} {alerts : List String}
    {refreshSeconds tableRows : Nat} {name id : String} {content : Html.Document}
    (h : Token.element name [.of "id" id] content <:+:
      Http.document s alerts refreshSeconds tableRows) (hname : IsTagName name) :
    ∃ rest, occurrences (idTag name id)
        (chars (Http.document s alerts refreshSeconds tableRows)) =
      [chars content ++ closeMark name ++ rest] := by
  obtain ⟨before, after, hd⟩ := h
  rw [List.append_assoc] at hd
  refine ⟨chars after, occurrences_idTag hd.symm (Http.isPlain_document s alerts _ _) hname
    (ids_escaped s alerts _ _) ?_⟩
  rw [Http.ids_document]
  exact nodup_documentIds _

theorem isPlain_tableContent (p : Page) (kind : UnitKind) (tableRows : Nat) :
    IsPlain (Http.Document.tableContent p kind tableRows) :=
  (Http.Document.isPlain_line.mp (Http.Document.isPlain_unitTable p kind tableRows)).2.2

theorem quotedAfter_tableContent (p : Page) (kind : UnitKind) (tableRows : Nat) :
    quotedAfter (openMark "tr") (chars (Http.Document.tableContent p kind tableRows)) =
      (List.range (max tableRows (p.rowCount kind))).map fun i => (kind.rowId i).toList := by
  have hids : quotedAfter (openMark "tr")
      (chars (Http.Document.tableContent p kind tableRows) ++ []) = _ :=
    quotedAfter_openMark (isPlain_tableContent p kind tableRows) (by decide) []
  have hnone : quotedAfter (openMark "tr") [] = [] := rfl
  rw [List.append_nil, hnone, List.append_nil, Http.Document.filterMap_idOf?_tableContent,
    List.map_map] at hids
  refine hids.trans (List.map_congr_left fun i _ => ?_)
  exact escapeChars_of_isName (UnitKind.isName_of_mem_rowIds List.mem_cons_self)

/-- The text of a table, between its tags. -/
theorem occurrences_table_document (s : Snapshot) (alerts : List String)
    (refreshSeconds tableRows : Nat) (kind : UnitKind) :
    let rows := max tableRows (s.page.rowCount kind)
    ∃ content rest,
      occurrences (idTag "table" (kind.stem ++ "-table"))
          (chars (Http.document s alerts refreshSeconds tableRows)) =
        [content ++ closeMark "table" ++ rest] ∧
      occurrences (closeMark "table") content = [] ∧
      (occurrences (closeMark "tr") content).length = rows + 1 ∧
      quotedAfter (openMark "tr") content =
        (List.range rows).map fun i => (kind.rowId i).toList := by
  intro rows
  have htable : Token.element "table" [.of "id" (kind.stem ++ "-table")]
      (Http.Document.tableContent s.page kind tableRows) <:+:
        Http.document s alerts refreshSeconds tableRows :=
    List.infix_append_left.trans (Http.Document.unitTable_infix_document s alerts _ _ kind)
  obtain ⟨rest, hrest⟩ := occurrences_idTag_document htable (by decide)
  have hplain := isPlain_tableContent s.page kind tableRows
  obtain ⟨htables, hrows⟩ := Http.Document.count_tableContent s.page kind tableRows
  refine ⟨_, rest, hrest, ?_, ?_, quotedAfter_tableContent s.page kind tableRows⟩
  · rw [← List.length_eq_zero_iff, length_occurrences_closeMark hplain (by decide)]
    exact htables
  · rw [length_occurrences_closeMark hplain (by decide)]
    exact hrows

/-- The ids that stand in the text are those of the document. -/
theorem quotedAfter_document (s : Snapshot) (alerts : List String)
    (refreshSeconds tableRows : Nat) :
    quotedAfter idMark (chars (Http.document s alerts refreshSeconds tableRows)) =
      (documentIds fun kind => max tableRows (s.page.rowCount kind)).map (·.toList) := by
  have hids := quotedAfter_chars (Http.isPlain_document s alerts refreshSeconds tableRows)
    (u := []) (by simp)
  rw [List.nil_append, Http.ids_document] at hids
  exact hids.trans (List.map_congr_left fun id hid =>
    escapeChars_of_isName (isName_of_mem_documentIds hid))

/-- The document of a reachable dashboard has every cell of the page in the element of its id, and
that element once; a table has the rows of the last list of its kind and at least those that are
set, in order; and no id is given twice. -/
theorem document_shows_page (settings : Settings) (changes : List Dashboard.Change)
    (alerts : List String) (refreshSeconds : Nat) :
    let d := (Dashboard.ofSettings settings).changeAll changes
    let last := lastOf? ((Dashboard.ofSettings settings).shown changes)
    let height (kind : UnitKind) := shownRows settings.tableRows last kind
    let html :=
      (render (Http.document d.snapshot alerts refreshSeconds settings.tableRows)).toList
    (∀ id cell, d.page.get? id = some cell →
      ∃ rest, occurrences ("<td id=\"" ++ id ++ "\">").toList html =
        [(render cell.html ++ "</td>").toList ++ rest]) ∧
    (∀ kind, ∃ content rest,
      occurrences ("<table id=\"" ++ kind.stem ++ "-table\">").toList html =
        [content ++ "</table>".toList ++ rest] ∧
      occurrences "</table>".toList content = [] ∧
      (occurrences "</tr>".toList content).length = height kind + 1 ∧
      quotedAfter "<tr id=\"".toList content =
        (List.range (height kind)).map fun i => (kind.rowId i).toList) ∧
    quotedAfter "id=\"".toList html = (documentIds height).map (·.toList) ∧
    (quotedAfter "id=\"".toList html).Nodup := by
  intro d last height html
  have hshows : d.page.Shows settings.tableRows last := Dashboard.shows_ofSettings settings changes
  have hhtml : html =
      chars (Http.document d.snapshot alerts refreshSeconds settings.tableRows) :=
    String.toList_ofList
  have hheight : (fun kind => max settings.tableRows (d.page.rowCount kind)) = height :=
    funext fun kind => hshows.max_rowCount kind
  have hids : quotedAfter "id=\"".toList html = (documentIds height).map (·.toList) := by
    rw [hhtml, ← hheight]
    exact quotedAfter_document d.snapshot alerts refreshSeconds settings.tableRows
  refine ⟨fun id cell hcell => ?_, fun kind => ?_, ?_, ?_⟩
  · have hpart := hshows.cell_infix_document (s := d.snapshot) hcell alerts refreshSeconds
    obtain ⟨rest, hrest⟩ := occurrences_idTag_document hpart (by decide)
    have hmark : ("<td id=\"" ++ id ++ "\">").toList = idTag "td" id := by
      simp [idTag, openMark]
    have hcontent : d.snapshot.page.html id = cell.html :=
      congrArg (fun found => (found.map Cell.html).getD []) hcell
    refine ⟨rest, ?_⟩
    rw [hmark, hhtml, hrest, hcontent]
    simp [render, closeMark]
  · obtain ⟨content, rest, htable, htables, hrows, hids⟩ :=
      occurrences_table_document d.snapshot alerts refreshSeconds settings.tableRows kind
    have hmark : ("<table id=\"" ++ kind.stem ++ "-table\">").toList =
        idTag "table" (kind.stem ++ "-table") := by
      simp [idTag, openMark]
    have hkind : max settings.tableRows (d.snapshot.page.rowCount kind) = height kind :=
      hshows.max_rowCount kind
    rw [hkind] at hrows hids
    rw [hmark, hhtml]
    exact ⟨content, rest, htable, htables, hrows, hids⟩
  · exact hids
  · rw [hids]
    exact (nodup_documentIds height).map fun _ _ heq => String.toList_injective heq

/-- A version that is written like a cell of the page. -/
theorem document_of_spoofed_cell :
    let version := "<td id=\"get-state\">"
    let settings : Settings := {}
    let d := (Dashboard.ofSettings settings).changeAll [.apply ⟨0, 0⟩ 0 (.apiVersion version)]
    let html := (render (Http.document d.snapshot [] 2 settings.tableRows)).toList
    d.page.get? "api-version" = some (.text version) ∧
      ∃ rest, occurrences "<td id=\"api-version\">".toList html =
        ["&lt;td id=&quot;get-state&quot;&gt;</td>".toList ++ rest] := by
  intro version settings d html
  have hcell : d.page.get? "api-version" = some (.text version) := by
    have hset : d.page = (Page.empty.set "api-version" (.text version)).touch ⟨0, 0⟩ := rfl
    rw [hset]
    exact (Page.get?_set ..).trans (if_pos rfl)
  obtain ⟨hcells, -⟩ := document_shows_page settings [.apply ⟨0, 0⟩ 0 (.apiVersion version)] [] 2
  obtain ⟨rest, hrest⟩ := hcells "api-version" _ hcell
  have hmark : "<td id=\"" ++ "api-version" ++ "\">" = "<td id=\"api-version\">" := by decide
  have htext : render (Cell.text version).html ++ "</td>" =
      "&lt;td id=&quot;get-state&quot;&gt;</td>" := by decide
  rw [hmark, htext] at hrest
  exact ⟨hcell, rest, hrest⟩

end DetectorDashboard
