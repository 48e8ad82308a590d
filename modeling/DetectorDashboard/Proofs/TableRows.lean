import Mathlib.Data.List.Nodup
import Mathlib.Data.List.Perm.Subperm
import Mathlib.Order.Nat
import DetectorDashboard.Proofs.ElementId

/-! Rows of unit tables. On every page there is a first row that is not there, since different rows
have different ids; rows are counted up to it, and dropped up to it. A page has `n` rows of a kind
when the first `n` are there with all their columns and no later one is there at all. On such a page
`n` rows are counted, and rendering a list of units replaces the whole table, whatever its height
was. -/

namespace DetectorDashboard

namespace Page

/-! ### Cells after several changes -/

/-- The last cell that a list has for an id. -/
def lastCell? (cells : List (String × Cell)) (id : String) : Option Cell :=
  (cells.reverse.find? (·.1 = id)).map (·.2)

theorem get?_setAll (p : Page) (cells : List (String × Cell)) (id : String) :
    (p.setAll cells).get? id = (lastCell? cells id).or (p.get? id) := by
  induction cells generalizing p with
  | nil => rfl
  | cons c rest ih =>
      rw [setAll, List.foldl_cons, ← setAll, ih, get?_set]
      by_cases hid : c.1 = id <;>
        cases hrest : rest.reverse.find? (·.1 = id) <;> simp [lastCell?, hid, hrest]

theorem isSome_lastCell? {cells : List (String × Cell)} {id : String} :
    (lastCell? cells id).isSome ↔ id ∈ cells.map (·.1) := by
  simp [lastCell?]

theorem get?_setAll_of_notMem (p : Page) (cells : List (String × Cell)) {id : String}
    (h : id ∉ cells.map (·.1)) : (p.setAll cells).get? id = p.get? id := by
  rw [← isSome_lastCell?, Option.not_isSome_iff_eq_none] at h
  rw [get?_setAll, h, Option.none_or]

theorem get?_setAll_of_mem (p : Page) (cells : List (String × Cell)) {id : String}
    (h : id ∈ cells.map (·.1)) : (p.setAll cells).get? id = lastCell? cells id := by
  obtain ⟨cell, hcell⟩ := Option.isSome_iff_exists.mp (isSome_lastCell?.mpr h)
  rw [get?_setAll, hcell, Option.some_or]

theorem get?_foldl_erase {α : Type} (p : Page) (f : α → String) (keys : List α) (id : String) :
    (keys.foldl (fun p key => p.erase (f key)) p).get? id =
      if id ∈ keys.map f then none else p.get? id := by
  induction keys generalizing p with
  | nil => rfl
  | cons key rest ih =>
      rw [List.foldl_cons, ih, get?_erase]
      simp only [List.map_cons, List.mem_cons, @eq_comm _ id]
      by_cases hkey : f key = id <;> by_cases hrest : id ∈ rest.map f <;> simp [hkey, hrest]

theorem get?_eraseRow (kind : UnitKind) (p : Page) (i : Nat) (id : String) :
    (eraseRow kind p i).get? id = if id ∈ kind.rowCellIds i then none else p.get? id := by
  rw [eraseRow, get?_foldl_erase, get?_erase]
  have hmem : id ∈ kind.rowCellIds i ↔
      kind.connectedId i = id ∨ id ∈ kind.columnNames.map (kind.cellId i) := by
    rw [UnitKind.rowCellIds, UnitKind.columns, List.map_cons, List.mem_cons, @eq_comm _ id]
    rfl
  by_cases hconnected : kind.connectedId i = id <;>
    by_cases hcolumn : id ∈ kind.columnNames.map (kind.cellId i) <;>
    simp [hmem, hconnected, hcolumn]

theorem get?_foldl_eraseRow (kind : UnitKind) (p : Page) (rows : List Nat) (id : String) :
    (rows.foldl (eraseRow kind) p).get? id =
      if ∃ i ∈ rows, id ∈ kind.rowCellIds i then none else p.get? id := by
  induction rows generalizing p with
  | nil => simp
  | cons i rest ih =>
      rw [List.foldl_cons, ih, get?_eraseRow]
      by_cases hi : id ∈ kind.rowCellIds i <;>
        by_cases hrest : ∃ j ∈ rest, id ∈ kind.rowCellIds j <;> simp_all

/-! ### Rows that are not there -/

theorem connectedId_mem (kind : UnitKind) (i : Nat) : kind.connectedId i ∈ kind.rowCellIds i :=
  List.mem_cons_self

theorem connectedId_injective {kind : UnitKind} {i j : Nat}
    (h : kind.connectedId i = kind.connectedId j) : i = j :=
  (UnitKind.cellId_injective h).2.1

/-- The rows from `first` on that are not there. -/
def missingRows (p : Page) (kind : UnitKind) (first : Nat) : Set Nat :=
  {i | first ≤ i ∧ p.get? (kind.connectedId i) = none}

theorem hasRow_eq_false_iff {p : Page} {kind : UnitKind} {i : Nat} :
    p.hasRow kind i = false ↔ p.get? (kind.connectedId i) = none := by
  rw [hasRow, Option.isSome_eq_false_iff, Option.isNone_iff_eq_none]

/-- Since different rows have different ids, a page cannot have more rows than cells. -/
theorem length_le_size {p : Page} {kind : UnitKind} {rows : List Nat} (hrows : rows.Nodup)
    (h : ∀ i ∈ rows, p.hasRow kind i = true) : rows.length ≤ p.cells.size := by
  have hnodup : (rows.map kind.connectedId).Nodup :=
    hrows.map fun _ _ hij => connectedId_injective hij
  have hkeys : rows.map kind.connectedId ⊆ p.cells.keys := by
    intro id hid
    obtain ⟨i, hi, rfl⟩ := List.mem_map.mp hid
    rw [Std.ExtTreeMap.mem_keys, Std.ExtTreeMap.mem_iff_isSome_getElem?]
    exact h i hi
  have hlength := (List.subperm_of_subset hnodup hkeys).length_le
  simpa [Std.ExtTreeMap.length_keys] using hlength

/-- Whatever rows a page has, one of those from `first` on is not there. -/
theorem exists_isLeast_missingRows (p : Page) (kind : UnitKind) (first : Nat) :
    ∃ n, IsLeast (p.missingRows kind first) n := by
  have hmissing : ∃ i, first ≤ i ∧ p.get? (kind.connectedId i) = none := by
    by_contra! hall
    have hrows : ∀ i ∈ List.range' first (p.cells.size + 1), p.hasRow kind i = true := fun i hi =>
      Option.isSome_iff_ne_none.mpr (hall i (List.mem_range'_1.mp hi).1)
    have hlength := length_le_size List.nodup_range' hrows
    rw [List.length_range'] at hlength
    omega
  exact ⟨Nat.find hmissing, Nat.isLeast_find hmissing⟩

section Missing

variable {p : Page} {kind : UnitKind} {first n : Nat} (h : IsLeast (p.missingRows kind first) n)

include h

theorem hasRow_of_lt {i : Nat} (hfirst : first ≤ i) (hi : i < n) : p.hasRow kind i = true := by
  rw [hasRow, Option.isSome_iff_ne_none]
  intro hnone
  exact Nat.not_le_of_lt hi (h.2 ⟨hfirst, hnone⟩)

/-- As many rows as the page has cells, and one more, are enough to find the first that is not
there. -/
theorem takeWhile_hasRow :
    (List.range' first (p.cells.size + 1)).takeWhile (p.hasRow kind) =
      List.range' first (n - first) := by
  have hpresent : ∀ i ∈ List.range' first (n - first), p.hasRow kind i = true := by
    intro i hi
    obtain ⟨hfirst, hlt⟩ := List.mem_range'_1.mp hi
    exact hasRow_of_lt h hfirst (by omega)
  have hle := length_le_size List.nodup_range' hpresent
  rw [List.length_range'] at hle
  have hfirst : first + (n - first) = n := Nat.add_sub_of_le h.1.1
  have hsplit : List.range' first (p.cells.size + 1) =
      List.range' first (n - first) ++ List.range' n (p.cells.size - (n - first) + 1) := by
    have hlength : p.cells.size + 1 = n - first + (p.cells.size - (n - first) + 1) := by omega
    rw [hlength, ← List.range'_append_1, hfirst]
  have hmissing : p.hasRow kind n = false := hasRow_eq_false_iff.mpr h.1.2
  rw [hsplit, List.takeWhile_append_of_pos hpresent, List.range'_succ,
    List.takeWhile_cons_of_neg (by simp [hmissing]), List.append_nil]

theorem eraseRowsFrom_eq :
    p.eraseRowsFrom kind first = (List.range' first (n - first)).foldl (eraseRow kind) p := by
  rw [eraseRowsFrom, takeWhile_hasRow h]

theorem get?_eraseRowsFrom_of_mem {i : Nat} (hfirst : first ≤ i) (hi : i < n) {id : String}
    (hid : id ∈ kind.rowCellIds i) : (p.eraseRowsFrom kind first).get? id = none := by
  rw [eraseRowsFrom_eq h, get?_foldl_eraseRow,
    if_pos ⟨i, List.mem_range'_1.mpr (by omega), hid⟩]

theorem get?_eraseRowsFrom_of_notMem {id : String}
    (hid : ∀ i, first ≤ i → i < n → id ∉ kind.rowCellIds i) :
    (p.eraseRowsFrom kind first).get? id = p.get? id := by
  rw [eraseRowsFrom_eq h, get?_foldl_eraseRow, if_neg]
  rintro ⟨i, hi, hrow⟩
  obtain ⟨hfirst, hlt⟩ := List.mem_range'_1.mp hi
  exact hid i hfirst (by omega) hrow

end Missing

theorem rowCount_eq_of_isLeast {p : Page} {kind : UnitKind} {n : Nat}
    (h : IsLeast (p.missingRows kind 0) n) : p.rowCount kind = n := by
  rw [rowCount, List.range_eq_range', takeWhile_hasRow h, List.length_range', Nat.sub_zero]

/-- Dropping rows leaves the cells of earlier rows alone, and those outside the table. -/
theorem get?_eraseRowsFrom_of_lt (p : Page) (kind : UnitKind) {first : Nat} {id : String}
    (hid : ∀ i, id ∈ kind.rowCellIds i → i < first) :
    (p.eraseRowsFrom kind first).get? id = p.get? id := by
  obtain ⟨n, hn⟩ := p.exists_isLeast_missingRows kind first
  exact get?_eraseRowsFrom_of_notMem hn fun i hfirst _ hrow =>
    Nat.not_le_of_lt (hid i hrow) hfirst

/-! ### Rows in a block -/

structure HasRows (p : Page) (kind : UnitKind) (n : Nat) : Prop where
  present : ∀ i < n, ∀ id ∈ kind.rowCellIds i, (p.get? id).isSome
  absent : ∀ i, n ≤ i → ∀ id ∈ kind.rowCellIds i, p.get? id = none

theorem HasRows.isLeast_missingRows {p : Page} {kind : UnitKind} {n : Nat}
    (h : p.HasRows kind n) (first : Nat) : IsLeast (p.missingRows kind first) (max first n) := by
  refine ⟨⟨Nat.le_max_left .., h.absent _ (Nat.le_max_right ..) _ (connectedId_mem kind _)⟩, ?_⟩
  rintro i ⟨hfirst, hnone⟩
  by_contra hi
  have hsome := h.present i (by omega) _ (connectedId_mem kind i)
  rw [hnone] at hsome
  exact Bool.false_ne_true hsome

theorem HasRows.rowCount_eq {p : Page} {kind : UnitKind} {n : Nat} (h : p.HasRows kind n) :
    p.rowCount kind = n :=
  (rowCount_eq_of_isLeast (h.isLeast_missingRows 0)).trans (Nat.zero_max n)

/-- Where the rows of a page are a block, all rows from `first` on are dropped. -/
theorem HasRows.get?_eraseRowsFrom {p : Page} {kind : UnitKind} {n : Nat} (h : p.HasRows kind n)
    {first i : Nat} {id : String} (hfirst : first ≤ i) (hid : id ∈ kind.rowCellIds i) :
    (p.eraseRowsFrom kind first).get? id = none := by
  by_cases hi : i < n
  · exact get?_eraseRowsFrom_of_mem (h.isLeast_missingRows first) hfirst (by omega) hid
  · rw [get?_eraseRowsFrom_of_notMem (h.isLeast_missingRows first)]
    · exact h.absent i (Nat.le_of_not_lt hi) id hid
    · intro j _ hj hrow
      have := (UnitKind.row_eq_of_mem hid hrow).2
      omega

/-! ### A rendered list of units -/

section Units

variable {α : Type} {kind : UnitKind} {columns : List (Column α)}

/-- The cells of a table of `rows` rows. -/
def tableCells (kind : UnitKind) (columns : List (Column α)) (units : List (UnitStatus α))
    (rows : Nat) : List (String × Cell) :=
  (List.range rows).flatMap fun i => kind.rowCells columns i units[i]?

theorem setUnits_eq (p : Page) (units : List (UnitStatus α)) (minimum : Nat) :
    p.setUnits kind columns units minimum =
      (p.setAll (tableCells kind columns units (max minimum units.length))).eraseRowsFrom kind
        (max minimum units.length) := rfl

variable (hcolumns : columns.map (·.name) = kind.columnNames)

include hcolumns

theorem map_fst_rowCells (i : Nat) (unit? : Option (UnitStatus α)) :
    (kind.rowCells columns i unit?).map (·.1) = kind.rowCellIds i := by
  rw [UnitKind.rowCellIds, UnitKind.columns, ← hcolumns]
  simp [UnitKind.rowCells, UnitKind.connectedId]

theorem mem_map_fst_tableCells {units : List (UnitStatus α)} {rows : Nat} {id : String} :
    id ∈ (tableCells kind columns units rows).map (·.1) ↔
      ∃ i < rows, id ∈ kind.rowCellIds i := by
  simp only [tableCells, List.map_flatMap, map_fst_rowCells hcolumns, List.mem_flatMap,
    List.mem_range]

theorem get?_setAll_tableCells (p : Page) (units : List (UnitStatus α)) {rows : Nat} {id : String}
    (hid : ∀ i < rows, id ∉ kind.rowCellIds i) :
    (p.setAll (tableCells kind columns units rows)).get? id = p.get? id := by
  rw [get?_setAll_of_notMem]
  rw [mem_map_fst_tableCells hcolumns]
  rintro ⟨i, hi, hrow⟩
  exact hid i hi hrow

theorem HasRows.setAll {p : Page} {n : Nat} (h : p.HasRows kind n) (units : List (UnitStatus α))
    (rows : Nat) : (p.setAll (tableCells kind columns units rows)).HasRows kind (max rows n) where
  present i hi id hid := by
    rw [get?_setAll, Option.isSome_or, Bool.or_eq_true, isSome_lastCell?,
      mem_map_fst_tableCells hcolumns]
    by_cases hrows : i < rows
    · exact Or.inl ⟨i, hrows, hid⟩
    · exact Or.inr (h.present i (by omega) id hid)
  absent i hi id hid := by
    rw [get?_setAll_tableCells hcolumns, h.absent i (by omega) id hid]
    intro j hj hid'
    have := (UnitKind.row_eq_of_mem hid hid').2
    omega

/-- The rows of a table that was rendered are new, whatever the page was like. -/
theorem get?_setUnits_of_lt (p : Page) (units : List (UnitStatus α)) (minimum : Nat) {i : Nat}
    (hi : i < max minimum units.length) {id : String} (hid : id ∈ kind.rowCellIds i) :
    (p.setUnits kind columns units minimum).get? id =
      lastCell? (tableCells kind columns units (max minimum units.length)) id := by
  rw [setUnits_eq, get?_eraseRowsFrom_of_lt, get?_setAll_of_mem]
  · exact (mem_map_fst_tableCells hcolumns).mpr ⟨i, hi, hid⟩
  · intro j hj
    exact (UnitKind.row_eq_of_mem hid hj).2 ▸ hi

theorem isSome_get?_setUnits_of_lt (p : Page) (units : List (UnitStatus α)) (minimum : Nat) {i : Nat}
    (hi : i < max minimum units.length) {id : String} (hid : id ∈ kind.rowCellIds i) :
    ((p.setUnits kind columns units minimum).get? id).isSome := by
  rw [get?_setUnits_of_lt hcolumns p units minimum hi hid, isSome_lastCell?,
    mem_map_fst_tableCells hcolumns]
  exact ⟨i, hi, hid⟩

/-- Rendering a list of units replaces a table that is a block of rows as a whole. -/
theorem HasRows.get?_setUnits {p : Page} {n : Nat} (h : p.HasRows kind n)
    (units : List (UnitStatus α)) (minimum : Nat) {id : String} (hid : kind.IsCell id) :
    (p.setUnits kind columns units minimum).get? id =
      lastCell? (tableCells kind columns units (max minimum units.length)) id := by
  obtain ⟨i, hi⟩ := hid
  by_cases hrow : i < max minimum units.length
  · exact get?_setUnits_of_lt hcolumns p units minimum hrow hi
  · rw [setUnits_eq, (h.setAll hcolumns units _).get?_eraseRowsFrom (Nat.le_of_not_lt hrow) hi]
    refine (Option.not_isSome_iff_eq_none.mp ?_).symm
    rw [isSome_lastCell?, mem_map_fst_tableCells hcolumns]
    rintro ⟨j, hj, hid⟩
    exact hrow ((UnitKind.row_eq_of_mem hi hid).2 ▸ hj)

theorem HasRows.setUnits {p : Page} {n : Nat} (h : p.HasRows kind n)
    (units : List (UnitStatus α)) (minimum : Nat) :
    (p.setUnits kind columns units minimum).HasRows kind (max minimum units.length) where
  present _ hi _ hid := isSome_get?_setUnits_of_lt hcolumns p units minimum hi hid
  absent i hi id hid := by
    rw [h.get?_setUnits hcolumns units minimum ⟨i, hid⟩, ← Option.not_isSome_iff_eq_none,
      isSome_lastCell?, mem_map_fst_tableCells hcolumns]
    rintro ⟨j, hj, hid'⟩
    have := (UnitKind.row_eq_of_mem hid hid').2
    omega

/-- Cells of other tables and single values are left alone, whatever the page is like. -/
theorem get?_setUnits_of_not_isCell (p : Page) (units : List (UnitStatus α)) (minimum : Nat)
    {id : String} (hid : ¬ kind.IsCell id) :
    (p.setUnits kind columns units minimum).get? id = p.get? id := by
  rw [setUnits_eq, get?_eraseRowsFrom_of_lt, get?_setAll_tableCells hcolumns]
  · intro i _ hi
    exact hid ⟨i, hi⟩
  · intro i hi
    exact absurd ⟨i, hi⟩ hid

end Units

end Page

end DetectorDashboard
