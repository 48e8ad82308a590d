import DetectorDashboard.Proofs.TableRows
import Mathlib.Data.List.Pairwise

/-! A rendered table, row by row. No two cells of a table have the same id, so what was rendered last
for an id is the cell of its row and column; each row shows the unit in its place, or is empty where
the list has none. -/

namespace DetectorDashboard

namespace UnitKind

theorem map_name_detailColumns (kind : UnitKind) :
    kind.detailColumns.map (·.name) = kind.columnNames := by
  cases kind <;> rfl

theorem nodup_rowCellIds (kind : UnitKind) (i : Nat) : (kind.rowCellIds i).Nodup :=
  kind.nodup_columns.map fun _ _ h => (cellId_injective h).2.2

theorem IsCell.unique {kind kind' : UnitKind} {id : String} (h : kind.IsCell id)
    (h' : kind'.IsCell id) : kind = kind' := by
  obtain ⟨i, hi⟩ := h
  obtain ⟨j, hj⟩ := h'
  exact (row_eq_of_mem hi hj).1

theorem IsCell.notMem_single {kind : UnitKind} {id : String} (h : kind.IsCell id) :
    id ∉ CellId.single := by
  obtain ⟨i, hi⟩ := h
  obtain ⟨column, -, rfl⟩ := mem_rowCellIds.mp hi
  exact cellId_notMem_single kind i column

end UnitKind

namespace Page

/-- Where no id has two cells, the last cell of an id is its only one. -/
theorem lastCell?_of_mem {cells : List (String × Cell)} (hnodup : (cells.map (·.1)).Nodup)
    {id : String} {cell : Cell} (h : (id, cell) ∈ cells) : lastCell? cells id = some cell := by
  have hmem : id ∈ cells.map (·.1) := List.mem_map_of_mem (f := (·.1)) h
  obtain ⟨last, hlast⟩ := Option.isSome_iff_exists.mp (isSome_lastCell?.mpr hmem)
  obtain ⟨found, hfound, rfl⟩ := Option.map_eq_some_iff.mp hlast
  have hid : found.1 = id := of_decide_eq_true (List.find?_some hfound :)
  have hin : found ∈ cells := List.mem_reverse.mp (List.mem_of_find?_eq_some hfound)
  have heq : found = (id, cell) := List.inj_on_of_nodup_map hnodup hin h hid
  rw [hlast, heq]

section Units

variable {α : Type} {kind : UnitKind} {columns : List (Column α)}
  (hcolumns : columns.map (·.name) = kind.columnNames)

include hcolumns

theorem nodup_tableCells (units : List (UnitStatus α)) (rows : Nat) :
    ((tableCells kind columns units rows).map (·.1)).Nodup := by
  have hids : (tableCells kind columns units rows).map (·.1) =
      (List.range rows).flatMap kind.rowCellIds := by
    simp only [tableCells, List.map_flatMap, map_fst_rowCells hcolumns]
  rw [hids, List.nodup_flatMap]
  refine ⟨fun i _ => kind.nodup_rowCellIds i, ?_⟩
  refine List.nodup_range.imp fun {i j} hij id hi hj => ?_
  exact hij (UnitKind.row_eq_of_mem hi hj).2

/-- Each cell of a row shows what the unit in its place has for the column. -/
theorem get?_setUnits_row (p : Page) (units : List (UnitStatus α)) (minimum : Nat) {i : Nat}
    (hi : i < max minimum units.length) {id : String} {cell : Cell}
    (hcell : (id, cell) ∈ kind.rowCells columns i units[i]?) :
    (p.setUnits kind columns units minimum).get? id = some cell := by
  have hrow : id ∈ kind.rowCellIds i := by
    rw [← map_fst_rowCells hcolumns i units[i]?]
    exact List.mem_map_of_mem (f := (·.1)) hcell
  rw [get?_setUnits_of_lt hcolumns p units minimum hi hrow]
  refine lastCell?_of_mem (nodup_tableCells hcolumns units _) ?_
  exact List.mem_flatMap.mpr ⟨i, List.mem_range.mpr hi, hcell⟩

end Units

/-! ### What a row shows -/

/-- Row `i` shows a unit, or is empty if there is none in its place: a lamp says whether the unit is
connected, and only a connected unit has details to show. -/
def ShowsUnit (p : Page) (kind : UnitKind) (i : Nat) : Option (UnitStatus kind.Detail) → Prop
  | some ⟨true, some detail⟩ =>
      p.get? (kind.connectedId i) = some (.indicator ⟨true, .green, 20⟩) ∧
        ∀ c ∈ kind.detailColumns, p.get? (kind.cellId i c.name) = some (c.cell detail)
  | some ⟨connected, _⟩ =>
      p.get? (kind.connectedId i) = some (.indicator ⟨connected, .green, 20⟩) ∧
        ∀ column ∈ kind.columnNames, p.get? (kind.cellId i column) = some .empty
  | none =>
      p.get? (kind.connectedId i) = some .empty ∧
        ∀ column ∈ kind.columnNames, p.get? (kind.cellId i column) = some .empty

/-- A page that has the cells of a row shows its unit. -/
theorem showsUnit_of_rowCells {p : Page} {kind : UnitKind} {i : Nat}
    {unit? : Option (UnitStatus kind.Detail)}
    (h : ∀ c ∈ kind.rowCells kind.detailColumns i unit?, p.get? c.1 = some c.2) :
    p.ShowsUnit kind i unit? := by
  obtain ⟨hconnection, hdetails⟩ := List.forall_mem_cons.mp h
  have hcolumns := List.forall_mem_map.mp hdetails
  have hempty (hnone : unit?.bind (·.shown?) = none) :
      ∀ column ∈ kind.columnNames, p.get? (kind.cellId i column) = some .empty := by
    rw [← kind.map_name_detailColumns, List.forall_mem_map]
    intro c hc
    have hcell := hcolumns c hc
    rwa [hnone] at hcell
  cases unit? with
  | none => exact ⟨hconnection, hempty rfl⟩
  | some unit =>
      obtain ⟨connected, detail?⟩ := unit
      cases connected with
      | false => exact ⟨hconnection, hempty rfl⟩
      | true =>
          cases detail? with
          | none => exact ⟨hconnection, hempty rfl⟩
          | some detail => exact ⟨hconnection, hcolumns⟩

/-! ### The time of the last rendering -/

theorem updatedAt_foldl {α : Type} {change : Page → α → Page}
    (h : ∀ p x, (change p x).updatedAt = p.updatedAt) (p : Page) (xs : List α) :
    (xs.foldl change p).updatedAt = p.updatedAt := by
  induction xs generalizing p with
  | nil => rfl
  | cons x rest ih => exact (ih (change p x)).trans (h p x)

theorem updatedAt_setUnits {α : Type} (p : Page) (kind : UnitKind) (columns : List (Column α))
    (units : List (UnitStatus α)) (minimum : Nat) :
    (p.setUnits kind columns units minimum).updatedAt = p.updatedAt := by
  have hset (q : Page) (cells : List (String × Cell)) :
      (q.setAll cells).updatedAt = q.updatedAt := by
    rw [setAll]
    refine updatedAt_foldl (fun _ _ => ?_) q cells
    rfl
  have herase (q : Page) (i : Nat) : (eraseRow kind q i).updatedAt = q.updatedAt := by
    rw [eraseRow]
    refine updatedAt_foldl (fun _ _ => ?_) (q.erase (kind.connectedId i)) kind.columnNames
    rfl
  rw [setUnits_eq, eraseRowsFrom, updatedAt_foldl herase, hset]

/-! ### A whole table -/

/-- Rendering a list of units replaces the table of its kind, whatever the height of that was: the
table has as many rows as are counted, each row shows the unit in its place, and nothing else on the
page has changed. -/
theorem renderUnits_replaces_table (p : Page) (kind : UnitKind) (n : Nat) (h : p.HasRows kind n)
    (units : List (UnitStatus kind.Detail)) (minimum : Nat) :
    let rows := (p.renderUnits kind units minimum).1
    let q := (p.renderUnits kind units minimum).2
    rows = max minimum units.length ∧ q.HasRows kind rows ∧
      (∀ i < rows, q.ShowsUnit kind i units[i]?) ∧
      (∀ id, ¬ kind.IsCell id → q.get? id = p.get? id) ∧
      (∀ id, (∃ other, other ≠ kind ∧ other.IsCell id) ∨ id ∈ CellId.single → ¬ kind.IsCell id) ∧
      q.updatedAt = p.updatedAt := by
  intro rows q
  have hcolumns := kind.map_name_detailColumns
  refine ⟨rfl, h.setUnits hcolumns units minimum, fun i hi => ?_, fun id hid => ?_, ?_, ?_⟩
  · exact showsUnit_of_rowCells fun c hc => get?_setUnits_row hcolumns p units minimum hi hc
  · exact get?_setUnits_of_not_isCell hcolumns p units minimum hid
  · rintro id (⟨other, hne, hother⟩ | hsingle) hid
    · exact hne (hother.unique hid)
    · exact hid.notMem_single hsingle
  · exact updatedAt_setUnits p kind _ units minimum

/-- A table of three processors shrinks to the one that is left, which has gone. The third of them
reports in full, but without being connected. -/
theorem table_of_lost_processors :
    let running : Processor :=
      { sharedMemory := true, processes := 4, rank := -1, written := 25, maximum := 100
        fileName := none, writing := true }
    let units : List (UnitStatus Processor) :=
      [.disconnected, .connected running, ⟨false, some running⟩]
    let p := (Page.empty.renderUnits .processor units 2).2
    let q := (p.renderUnits .processor [.disconnected] 1).2
    Page.empty.HasRows .processor 0 ∧ p.HasRows .processor 3 ∧
      p.get? "fp2-hdf-written" = some (.text "25 / 100") ∧ p.get? "fp3-writing" = some .empty ∧
      (p.renderUnits .processor [.disconnected] 1).1 = 1 ∧ q.HasRows .processor 1 ∧
      q.ShowsUnit .processor 0 (some .disconnected) ∧ q.get? "fp2-hdf-written" = none := by
  intro running units p q
  have hempty : Page.empty.HasRows .processor 0 :=
    ⟨fun i hi => absurd hi (Nat.not_lt_zero i), fun _ _ _ _ => rfl⟩
  obtain ⟨-, hp, hshows, -⟩ := renderUnits_replaces_table .empty .processor 0 hempty units 2
  obtain ⟨hcount, hq, hgone, -⟩ := renderUnits_replaces_table p .processor 3 hp [.disconnected] 1
  have hsecond := (hshows 1 (by decide)).2
  have hthird := (hshows 2 (by decide)).2
  have hwritten : .text "hdf-written" (·.progress) ∈ Processor.columns :=
    .tail _ (.tail _ (.tail _ (.head _)))
  have hwrittenId : UnitKind.cellId .processor 1 "hdf-written" = "fp2-hdf-written" := by decide
  have hwritingId : UnitKind.cellId .processor 2 "writing" = "fp3-writing" := by decide
  have hprogress : running.progress = "25 / 100" := by decide
  refine ⟨hempty, hp, ?_, ?_, hcount, hq, hgone 0 (by decide), ?_⟩
  · rw [← hwrittenId, ← hprogress]
    exact hsecond (.text "hdf-written" (·.progress)) hwritten
  · rw [← hwritingId]
    exact hthird "writing" (by decide)
  · rw [← hwrittenId]
    exact hq.absent 1 (by decide) _ (UnitKind.mem_rowCellIds.mpr ⟨_, by decide, rfl⟩)

end Page

end DetectorDashboard
