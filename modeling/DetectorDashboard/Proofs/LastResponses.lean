import Mathlib.Logic.Function.Basic
import DetectorDashboard.Proofs.TableRows

/-! The page as a picture of the last response of each endpoint. Every id belongs to at most one
endpoint, and a response replaces exactly the cells of its endpoint. Hence a page that shows a
choice of responses, at most one for each endpoint, is determined by the choice, and neither the
responses that were replaced nor the order of rendering can be seen on it. -/

namespace DetectorDashboard

/-- The endpoint that a table is filled from. -/
def UnitKind.endpoint : UnitKind → Endpoint
  | .receiver => .receivers
  | .processor => .processors

namespace Endpoint

/-- The ids of the single values of an endpoint. -/
def cellIds : Endpoint → List String
  | .apiVersion => [CellId.apiVersion]
  | .adapters => [CellId.adapters]
  | .detectorConfig => [CellId.exposure, CellId.period, CellId.images]
  | .detectorStatus => [CellId.complete, CellId.state]
  | .receivers | .processors => []

/-- Whether a cell is one that the responses of an endpoint fill. -/
def Owns : Endpoint → String → Prop
  | .receivers, id => UnitKind.receiver.IsCell id
  | .processors, id => UnitKind.processor.IsCell id
  | endpoint, id => id ∈ endpoint.cellIds

theorem owns_endpoint_iff {kind : UnitKind} {id : String} :
    kind.endpoint.Owns id ↔ kind.IsCell id := by
  cases kind <;> rfl

theorem Owns.cases {e : Endpoint} {id : String} (h : e.Owns id) :
    id ∈ e.cellIds ∨ ∃ kind : UnitKind, kind.endpoint = e ∧ kind.IsCell id := by
  cases e with
  | receivers => exact Or.inr ⟨.receiver, rfl, h⟩
  | processors => exact Or.inr ⟨.processor, rfl, h⟩
  | _ => exact Or.inl h

theorem cellIds_subset_single (e : Endpoint) : e.cellIds ⊆ CellId.single := by
  cases e <;> decide

theorem notMem_cellIds_of_isCell {kind : UnitKind} {id : String} (h : kind.IsCell id)
    (e : Endpoint) : id ∉ e.cellIds := by
  obtain ⟨i, hi⟩ := h
  obtain ⟨column, -, rfl⟩ := UnitKind.mem_rowCellIds.mp hi
  intro hmem
  exact UnitKind.cellId_notMem_single kind i column (cellIds_subset_single e hmem)

theorem eq_of_mem_cellIds {e e' : Endpoint} {id : String} (h : id ∈ e.cellIds)
    (h' : id ∈ e'.cellIds) : e = e' := by
  have hdistinct : ∀ e ∈ all, ∀ e' ∈ all, ∀ id ∈ e.cellIds, id ∈ e'.cellIds → e = e' := by decide
  exact hdistinct e (mem_all e) e' (mem_all e') id h h'

theorem Owns.unique {e e' : Endpoint} {id : String} (h : e.Owns id) (h' : e'.Owns id) :
    e = e' := by
  rcases h.cases with hmem | ⟨kind, rfl, hcell⟩ <;>
    rcases h'.cases with hmem' | ⟨kind', rfl, hcell'⟩
  · exact eq_of_mem_cellIds hmem hmem'
  · exact absurd hmem (notMem_cellIds_of_isCell hcell' e)
  · exact absurd hmem' (notMem_cellIds_of_isCell hcell e')
  · obtain ⟨i, hi⟩ := hcell
    obtain ⟨j, hj⟩ := hcell'
    rw [(UnitKind.row_eq_of_mem hi hj).1]

end Endpoint

namespace StatusResponse

/-- How many units a response lists. -/
def unitCount : StatusResponse → Nat
  | .receivers units => units.length
  | .processors units => units.length
  | _ => 0

/-- The cells that a response fills, on a page whose tables have at least `rows` rows. -/
def cells (rows : Nat) : StatusResponse → List (String × Cell)
  | .apiVersion version => [(CellId.apiVersion, .text version)]
  | .adapters names => [(CellId.adapters, .text (", ".intercalate names))]
  | .detectorConfig config =>
      [ (CellId.exposure, .text (roundedSeconds config.exposure)),
        (CellId.period, .text (roundedSeconds config.period)),
        (CellId.images, .text config.images.text) ]
  | .detectorStatus status =>
      [ (CellId.complete, .indicator (.healthy status.complete)),
        (CellId.state, (status.state.map Cell.text).getD .empty) ]
  | .receivers units =>
      Page.tableCells .receiver Receiver.columns units (max rows units.length)
  | .processors units =>
      Page.tableCells .processor Processor.columns units (max rows units.length)

end StatusResponse

namespace Page

/-- A response leaves the cells of other endpoints alone. -/
theorem get?_render_of_not_owns (p : Page) (rows : Nat) (response : StatusResponse) {id : String}
    (h : ¬ response.endpoint.Owns id) : (p.render rows response).get? id = p.get? id := by
  cases response with
  | receivers units => exact get?_setUnits_of_not_isCell rfl p units rows h
  | processors units => exact get?_setUnits_of_not_isCell rfl p units rows h
  | apiVersion version =>
      exact get?_setAll_of_notMem p ((StatusResponse.apiVersion version).cells rows) h
  | adapters names =>
      exact get?_setAll_of_notMem p ((StatusResponse.adapters names).cells rows) h
  | detectorConfig config => exact get?_setAll_of_notMem p _ h
  | detectorStatus status => exact get?_setAll_of_notMem p _ h

/-- A response replaces the cells of its endpoint, on a page whose tables are blocks of rows. -/
theorem get?_render_of_owns {p : Page} (hrows : ∀ kind, ∃ n, p.HasRows kind n) (rows : Nat)
    (response : StatusResponse) {id : String} (h : response.endpoint.Owns id) :
    (p.render rows response).get? id = lastCell? (response.cells rows) id := by
  cases response with
  | receivers units =>
      obtain ⟨n, hn⟩ := hrows .receiver
      exact hn.get?_setUnits rfl units rows h
  | processors units =>
      obtain ⟨n, hn⟩ := hrows .processor
      exact hn.get?_setUnits rfl units rows h
  | apiVersion version =>
      exact get?_setAll_of_mem p ((StatusResponse.apiVersion version).cells rows) h
  | adapters names =>
      exact get?_setAll_of_mem p ((StatusResponse.adapters names).cells rows) h
  | detectorConfig config => exact get?_setAll_of_mem p _ h
  | detectorStatus status => exact get?_setAll_of_mem p _ h

/-- The page shows, for each endpoint, the response chosen for it, if there is one, and nothing
else. -/
structure Shows (p : Page) (rows : Nat) (chosen : Endpoint → Option StatusResponse) : Prop where
  endpoint_eq : ∀ e response, chosen e = some response → response.endpoint = e
  owned : ∀ e id, e.Owns id → p.get? id = (chosen e).bind fun r => lastCell? (r.cells rows) id
  other : ∀ id, (∀ e : Endpoint, ¬ e.Owns id) → p.get? id = none

/-- The height of a table that is filled from the chosen responses. -/
def chosenRows (rows : Nat) (chosen : Endpoint → Option StatusResponse) (kind : UnitKind) : Nat :=
  ((chosen kind.endpoint).map fun r => max rows r.unitCount).getD 0

variable {p q : Page} {rows : Nat} {chosen chosen' : Endpoint → Option StatusResponse}

theorem Shows.congr (h : p.Shows rows chosen) (heq : ∀ e, chosen e = chosen' e) :
    p.Shows rows chosen' :=
  funext heq ▸ h

theorem shows_empty (rows : Nat) : Page.empty.Shows rows fun _ => none where
  endpoint_eq _ _ h := nomatch h
  owned _ _ _ := rfl
  other _ _ := rfl

theorem Shows.touch (h : p.Shows rows chosen) (now : Timestamp) :
    (p.touch now).Shows rows chosen :=
  ⟨h.endpoint_eq, h.owned, h.other⟩

theorem mem_map_fst_cells_iff {kind : UnitKind} {response : StatusResponse} {id : String}
    (h : response.endpoint = kind.endpoint) :
    id ∈ (response.cells rows).map (·.1) ↔
      ∃ i < max rows response.unitCount, id ∈ kind.rowCellIds i := by
  cases kind with
  | receiver =>
      cases response with
      | receivers units => exact mem_map_fst_tableCells rfl
      | _ => exact nomatch h
  | processor =>
      cases response with
      | processors units => exact mem_map_fst_tableCells rfl
      | _ => exact nomatch h

/-- Its tables are blocks of rows. -/
theorem Shows.hasRows (h : p.Shows rows chosen) (kind : UnitKind) :
    p.HasRows kind (chosenRows rows chosen kind) := by
  have howned (i : Nat) (id : String) (hid : id ∈ kind.rowCellIds i) :
      p.get? id = (chosen kind.endpoint).bind fun r => lastCell? (r.cells rows) id :=
    h.owned kind.endpoint id (Endpoint.owns_endpoint_iff.mpr ⟨i, hid⟩)
  unfold chosenRows
  cases hchosen : chosen kind.endpoint with
  | none =>
      refine ⟨fun i hi => absurd hi (Nat.not_lt_zero i), fun i _ id hid => ?_⟩
      rw [howned i id hid, hchosen, Option.bind_none]
  | some response =>
      have hkind := h.endpoint_eq _ _ hchosen
      rw [hchosen] at howned
      refine ⟨fun i hi id hid => ?_, fun i hi id hid => ?_⟩
      · rw [howned i id hid, Option.bind_some, isSome_lastCell?, mem_map_fst_cells_iff hkind]
        exact ⟨i, hi, hid⟩
      · rw [howned i id hid, Option.bind_some, ← Option.not_isSome_iff_eq_none,
          isSome_lastCell?, mem_map_fst_cells_iff hkind]
        rintro ⟨j, hj, hid'⟩
        obtain rfl : i = j := (UnitKind.row_eq_of_mem hid hid').2
        exact absurd hj (Nat.not_lt.mpr hi)

/-- Rendering a response chooses it for its endpoint. -/
theorem Shows.render (h : p.Shows rows chosen) (response : StatusResponse) :
    (p.render rows response).Shows rows
      (Function.update chosen response.endpoint (some response)) where
  endpoint_eq e other hother := by
    by_cases he : e = response.endpoint
    · subst he
      rw [Function.update_self] at hother
      rw [Option.some.inj hother]
    · rw [Function.update_of_ne he] at hother
      exact h.endpoint_eq e other hother
  owned e id hid := by
    by_cases he : e = response.endpoint
    · subst he
      rw [get?_render_of_owns (fun kind => ⟨_, h.hasRows kind⟩) rows response hid,
        Function.update_self, Option.bind_some]
    · rw [get?_render_of_not_owns p rows response fun hr => he (hid.unique hr),
        Function.update_of_ne he]
      exact h.owned e id hid
  other id hid := by
    rw [get?_render_of_not_owns p rows response (hid _)]
    exact h.other id hid

/-- Pages that show the same responses have the same cells. -/
theorem Shows.cells_eq (hp : p.Shows rows chosen) (hq : q.Shows rows chosen) :
    p.cells = q.cells := by
  refine Std.ExtTreeMap.ext_getElem? fun id => ?_
  change p.get? id = q.get? id
  by_cases howned : ∃ e : Endpoint, e.Owns id
  · obtain ⟨e, he⟩ := howned
    rw [hp.owned e id he, hq.owned e id he]
  · have hother : ∀ e : Endpoint, ¬ e.Owns id := fun e he => howned ⟨e, he⟩
    rw [hp.other id hother, hq.other id hother]

/-! ### Rendering the chosen responses -/

/-- The page that shows responses rendered one after the other. -/
def renderAll (p : Page) (rows : Nat) (responses : List StatusResponse) : Page :=
  responses.foldl (fun p r => p.render rows r) p

/-- Rendering the chosen responses of some endpoints, each endpoint once. -/
theorem Shows.renderAll {order : List Endpoint} (horder : order.Nodup)
    (hchosen : ∀ e response, chosen e = some response → response.endpoint = e)
    {before : Endpoint → Option StatusResponse} (h : p.Shows rows before) :
    (p.renderAll rows (order.filterMap chosen)).Shows rows
      fun e => if e ∈ order then (chosen e).or (before e) else before e := by
  induction order generalizing p before with
  | nil => simpa [Page.renderAll] using h
  | cons e rest ih =>
      obtain ⟨he, hrest⟩ := List.nodup_cons.mp horder
      cases hresponse : chosen e with
      | none =>
          rw [List.filterMap_cons_none hresponse]
          refine (ih hrest h).congr fun e' => ?_
          by_cases heq : e' = e
          · subst heq
            simp [he, hresponse]
          · simp [heq]
      | some response =>
          obtain rfl : response.endpoint = e := hchosen e response hresponse
          rw [List.filterMap_cons_some hresponse]
          refine (ih hrest (h.render response)).congr fun e' => ?_
          by_cases heq : e' = response.endpoint
          · subst heq
            simp [he, hresponse]
          · simp [heq]

/-- Whatever the order of rendering, the chosen responses give the one page that shows them. -/
theorem Shows.cells_renderAll (h : p.Shows rows chosen) {order : List Endpoint}
    (horder : order.Perm Endpoint.all) :
    p.cells = (Page.empty.renderAll rows (order.filterMap chosen)).cells := by
  have hnodup : order.Nodup := horder.nodup_iff.mpr (by decide)
  have hall : ∀ e, e ∈ order := fun e => horder.mem_iff.mpr (Endpoint.mem_all e)
  have hshows := Shows.renderAll hnodup h.endpoint_eq (shows_empty rows)
  simp only [hall, if_true, Option.or_none] at hshows
  exact h.cells_eq hshows

end Page

end DetectorDashboard
