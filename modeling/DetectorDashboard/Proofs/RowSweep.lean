import Mathlib.Order.Bounds.Basic
import DetectorDashboard.Proofs.UnitRows

/-! Sweeps over the rows of a table, from row to row until one is not there. Rows are counted and
dropped in such sweeps, which are not told where to end. They end on every page, also on one whose
rows have gaps or that has cells of no table, and no sooner than at the first row that is not there:
so the bounds on rows in the definitions never cut one short. -/

namespace DetectorDashboard

namespace Page

/-- A sweep from a page and a row to the page that it leaves and the row at which it ends. Each row
that is there is changed before the next one is looked for. A sweep is finite: if no row were missing,
there would be none. -/
inductive Sweep (kind : UnitKind) (change : Page → Nat → Page) : Page → Nat → Page → Nat → Prop
  | missing {p : Page} {i : Nat} (h : p.hasRow kind i = false) : Sweep kind change p i p i
  | present {p q : Page} {i n : Nat} (h : p.hasRow kind i = true)
      (rest : Sweep kind change (change p i) (i + 1) q n) : Sweep kind change p i q n

theorem Sweep.unique {kind : UnitKind} {change : Page → Nat → Page} {p q q' : Page} {i n n' : Nat}
    (h : Sweep kind change p i q n) (h' : Sweep kind change p i q' n') : q = q' ∧ n = n' := by
  induction h with
  | missing hmissing =>
      cases h' with
      | missing => exact ⟨rfl, rfl⟩
      | present hpresent => exact absurd (hmissing.symm.trans hpresent) Bool.false_ne_true
  | present hpresent _ ih =>
      cases h' with
      | missing hmissing => exact absurd (hmissing.symm.trans hpresent) Bool.false_ne_true
      | present _ rest => exact ih rest

/-! ### Where a sweep ends -/

theorem missingRows_congr {p q : Page} {kind : UnitKind} {first : Nat}
    (h : ∀ i, first ≤ i → q.get? (kind.connectedId i) = p.get? (kind.connectedId i)) :
    q.missingRows kind first = p.missingRows kind first := by
  ext i
  exact and_congr_right fun hfirst => by rw [h i hfirst]

theorem isLeast_missingRows_succ {p : Page} {kind : UnitKind} {first n : Nat}
    (h : IsLeast (p.missingRows kind first) n) (hlt : first < n) :
    IsLeast (p.missingRows kind (first + 1)) n :=
  ⟨⟨hlt, h.1.2⟩, fun _ hi => h.2 ⟨Nat.le_of_succ_le hi.1, hi.2⟩⟩

section

variable {kind : UnitKind} {change : Page → Nat → Page}
  (hchange : ∀ p i j, i < j →
    (change p i).get? (kind.connectedId j) = p.get? (kind.connectedId j))

include hchange

/-- A sweep whose changes leave later rows where they are ends at the first row that is not there. -/
theorem Sweep.of_isLeast {p : Page} {first n : Nat} (h : IsLeast (p.missingRows kind first) n) :
    Sweep kind change p first ((List.range' first (n - first)).foldl change p) n := by
  obtain ⟨rows, rfl⟩ := Nat.exists_eq_add_of_le h.1.1
  rw [Nat.add_sub_cancel_left]
  -- on the number of rows that are there: changing the first of them leaves the others there, and
  -- the same row as the first that is not
  induction rows generalizing p first with
  | zero => exact .missing (hasRow_eq_false_iff.mpr h.1.2)
  | succ rows ih =>
      have hpresent := hasRow_of_lt h (Nat.le_refl first) (by omega)
      have hlater : (change p first).missingRows kind (first + 1) =
          p.missingRows kind (first + 1) :=
        missingRows_congr fun i hi => hchange p first i hi
      have hrest := isLeast_missingRows_succ h (by omega)
      rw [← hlater, ← Nat.add_assoc, Nat.add_right_comm] at hrest
      rw [List.range'_succ, List.foldl_cons, ← Nat.add_assoc, Nat.add_right_comm]
      exact .present hpresent (ih hrest)

theorem sweep_iff {p : Page} {first n : Nat} (h : IsLeast (p.missingRows kind first) n) {q : Page}
    {m : Nat} :
    Sweep kind change p first q m ↔
      q = (List.range' first (n - first)).foldl change p ∧ m = n := by
  constructor
  · intro hsweep
    exact hsweep.unique (.of_isLeast hchange h)
  · rintro ⟨rfl, rfl⟩
    exact .of_isLeast hchange h

end

/-! ### Counting and dropping rows -/

theorem isLeast_rowCount (p : Page) (kind : UnitKind) :
    IsLeast (p.missingRows kind 0) (p.rowCount kind) := by
  obtain ⟨n, hn⟩ := p.exists_isLeast_missingRows kind 0
  rwa [rowCount_eq_of_isLeast hn]

theorem sweep_count_iff {p q : Page} {kind : UnitKind} {n : Nat} :
    Sweep kind (fun p _ => p) p 0 q n ↔ q = p ∧ n = p.rowCount kind := by
  rw [sweep_iff (fun _ _ _ _ => rfl) (p.isLeast_rowCount kind), List.foldl_fixed]

theorem connectedId_notMem_rowCellIds {kind : UnitKind} {i j : Nat} (h : i < j) :
    kind.connectedId j ∉ kind.rowCellIds i := by
  intro hmem
  exact Nat.ne_of_lt h (UnitKind.row_eq_of_mem hmem (connectedId_mem kind j)).2

theorem sweep_erase_iff {p q : Page} {kind : UnitKind} {first m n : Nat}
    (h : IsLeast (p.missingRows kind first) n) :
    Sweep kind (eraseRow kind) p first q m ↔ q = p.eraseRowsFrom kind first ∧ m = n := by
  have hlater (p : Page) (i j : Nat) (hij : i < j) :
      (eraseRow kind p i).get? (kind.connectedId j) = p.get? (kind.connectedId j) := by
    rw [get?_eraseRow, if_neg (connectedId_notMem_rowCellIds hij)]
  rw [sweep_iff hlater h, ← eraseRowsFrom_eq h]

/-! ### A rendered list of units -/

section Units

variable {α : Type} {kind : UnitKind} {columns : List (Column α)}
  (hcolumns : columns.map (·.name) = kind.columnNames) (p : Page) (units : List (UnitStatus α))

include hcolumns

/-- Filling in the rows of a table leaves those below it as they were. -/
theorem missingRows_setAll_tableCells (rows : Nat) :
    (p.setAll (tableCells kind columns units rows)).missingRows kind rows =
      p.missingRows kind rows := by
  refine missingRows_congr fun i hi => get?_setAll_tableCells hcolumns p units fun j hj => ?_
  exact connectedId_notMem_rowCellIds (Nat.lt_of_lt_of_le hj hi)

section Gap

variable (minimum : Nat) {gap i : Nat} {id : String}
  (hgap : IsLeast (p.missingRows kind (max minimum units.length)) gap)

include hgap

theorem get?_setUnits_of_lt_gap (hrows : max minimum units.length ≤ i) (hi : i < gap)
    (hid : id ∈ kind.rowCellIds i) : (p.setUnits kind columns units minimum).get? id = none := by
  rw [← missingRows_setAll_tableCells hcolumns p units] at hgap
  rw [setUnits_eq]
  exact get?_eraseRowsFrom_of_mem hgap hrows hi hid

theorem get?_setUnits_of_gap_le (hi : gap ≤ i) (hid : id ∈ kind.rowCellIds i) :
    (p.setUnits kind columns units minimum).get? id = p.get? id := by
  have hrows : max minimum units.length ≤ gap := hgap.1.1
  have hother : ∀ j < gap, id ∉ kind.rowCellIds j := by
    intro j hj hrow
    have := (UnitKind.row_eq_of_mem hid hrow).2
    omega
  rw [← missingRows_setAll_tableCells hcolumns p units] at hgap
  rw [setUnits_eq, get?_eraseRowsFrom_of_notMem hgap fun j _ hj => hother j hj]
  exact get?_setAll_tableCells hcolumns p units fun j hj => hother j (Nat.lt_of_lt_of_le hj hrows)

end Gap

/-- What is counted after a rendering is what the rendering has counted. -/
theorem rowCount_setUnits (minimum : Nat) :
    (p.setUnits kind columns units minimum).rowCount kind = max minimum units.length := by
  refine rowCount_eq_of_isLeast ⟨⟨Nat.zero_le _, ?_⟩, ?_⟩
  · obtain ⟨gap, hgap⟩ := p.exists_isLeast_missingRows kind (max minimum units.length)
    have hid := connectedId_mem kind (max minimum units.length)
    obtain hlt | heq := Nat.lt_or_eq_of_le hgap.1.1
    · exact get?_setUnits_of_lt_gap hcolumns p units minimum hgap (Nat.le_refl _) hlt hid
    · rw [get?_setUnits_of_gap_le hcolumns p units minimum hgap (Nat.le_of_eq heq.symm) hid, heq]
      exact hgap.1.2
  · rintro i ⟨-, hnone⟩
    by_contra hi
    have hsome := isSome_get?_setUnits_of_lt hcolumns p units minimum (Nat.lt_of_not_le hi)
      (connectedId_mem kind i)
    rw [hnone] at hsome
    exact Bool.false_ne_true hsome

end Units

/-- Sweeps end on every page. Counting finds the first row that is not there. Rendering a list of
units fills in the counted rows and drops those after them, up to the first, `gap`, that was not
there: these are gone with all their cells, so that counting finds the same number again, while the
rows from `gap` on and all cells of no row are as they were. For no two cells of the tables have the
same id, nor has a cell of a table that of a single value. -/
theorem sweeps_end_on_every_page (p : Page) (kind : UnitKind) :
    (∀ q n, Sweep kind (fun p _ => p) p 0 q n ↔ q = p ∧ n = p.rowCount kind) ∧
    IsLeast {i | p.get? (kind.connectedId i) = none} (p.rowCount kind) ∧
    (∀ (units : List (UnitStatus kind.Detail)) (minimum : Nat),
      let rows := (p.renderUnits kind units minimum).1
      let rendered := (p.renderUnits kind units minimum).2
      let filled := p.setAll (tableCells kind kind.detailColumns units rows)
      ∃ gap, IsLeast {i | rows ≤ i ∧ p.get? (kind.connectedId i) = none} gap ∧
        (∀ q n, Sweep kind (eraseRow kind) filled rows q n ↔ q = rendered ∧ n = gap) ∧
        (∀ i, rows ≤ i → i < gap → ∀ id ∈ kind.rowCellIds i, rendered.get? id = none) ∧
        (∀ i, gap ≤ i → ∀ id ∈ kind.rowCellIds i, rendered.get? id = p.get? id) ∧
        (∀ id, ¬ kind.IsCell id → rendered.get? id = p.get? id) ∧
        rendered.rowCount kind = rows) ∧
    (∀ other i j column column', kind.cellId i column = other.cellId j column' →
      kind = other ∧ i = j ∧ column = column') ∧
    ∀ i column, kind.cellId i column ∉ CellId.single := by
  have hcolumns := kind.map_name_detailColumns
  refine ⟨fun q n => sweep_count_iff, ?_, fun units minimum => ?_, ?_, ?_⟩
  · simpa [missingRows] using p.isLeast_rowCount kind
  · intro rows rendered filled
    obtain ⟨gap, hgap⟩ := p.exists_isLeast_missingRows kind rows
    have hfilled : IsLeast (filled.missingRows kind rows) gap := by
      rwa [missingRows_setAll_tableCells hcolumns]
    refine ⟨gap, hgap, fun q n => sweep_erase_iff hfilled, ?_, ?_, ?_, ?_⟩
    · intro i hi hlt id hid
      exact get?_setUnits_of_lt_gap hcolumns p units minimum hgap hi hlt hid
    · intro i hi id hid
      exact get?_setUnits_of_gap_le hcolumns p units minimum hgap hi hid
    · intro id hid
      exact get?_setUnits_of_not_isCell hcolumns p units minimum hid
    · exact rowCount_setUnits hcolumns p units minimum
  · intro other i j column column' h
    exact UnitKind.cellId_injective h
  · intro i column
    exact kind.cellId_notMem_single i column

/-- Of two rows one is left. The second goes with its decoder, but not with a cell that no table has;
the third was never there, and neither its stray decoder nor the fourth row is met. -/
theorem sweeps_over_gap :
    let p := Page.empty.setAll
      [ ("fr1-connected", .empty), ("fr2-connected", .empty), ("fr2-decoder", .text "set"),
        ("fr2-note", .text "foreign"), ("fr3-decoder", .text "stray"), ("fr4-connected", .empty) ]
    let units : List (UnitStatus Receiver) := [.disconnected]
    let q := (p.renderUnits .receiver units 0).2
    p.rowCount .receiver = 2 ∧ q.rowCount .receiver = 1 ∧
      Sweep .receiver (eraseRow .receiver)
        (p.setAll (tableCells .receiver Receiver.columns units 1)) 1 q 2 ∧
      q.get? "fr2-connected" = none ∧ q.get? "fr2-decoder" = none ∧
      q.get? "fr2-note" = some (.text "foreign") ∧
      q.get? "fr3-decoder" = some (.text "stray") ∧ q.get? "fr4-connected" = some .empty := by
  intro p units q
  have hget (id : String) : p.get? id = (lastCell? _ id).or none := get?_setAll .empty _ id
  have hmissing : IsLeast {i | p.get? (UnitKind.connectedId .receiver i) = none} 2 := by
    refine ⟨(hget _).trans (by decide), fun i hi => ?_⟩
    by_contra hlt
    obtain rfl | rfl : i = 0 ∨ i = 1 := by omega
    · exact absurd ((hget _).symm.trans hi) (by decide)
    · exact absurd ((hget _).symm.trans hi) (by decide)
  obtain ⟨-, hcount, hrender, -⟩ := sweeps_end_on_every_page p .receiver
  obtain ⟨gap, hgap, hsweep, hgone, hlater, hforeign, hrows⟩ := hrender units 0
  obtain rfl : gap = 2 := hgap.unique ⟨⟨by decide, hmissing.1⟩, fun i hi => hmissing.2 hi.2⟩
  have hnote : ¬ UnitKind.IsCell .receiver "fr2-note" := by
    rintro ⟨i, hi⟩
    obtain ⟨column, hcolumn, hid⟩ := UnitKind.mem_rowCellIds.mp hi
    have hcell : UnitKind.cellId .receiver 1 "note" = "fr2-note" := by decide
    obtain ⟨-, -, rfl⟩ := UnitKind.cellId_injective (hid.trans hcell.symm)
    exact absurd hcolumn (by decide)
  refine ⟨hcount.unique hmissing, hrows, (hsweep q 2).mpr ⟨rfl, rfl⟩, ?_, ?_, ?_, ?_, ?_⟩
  · exact hgone 1 (by decide) (by decide) "fr2-connected" (by decide)
  · exact hgone 1 (by decide) (by decide) "fr2-decoder" (by decide)
  · exact (hforeign "fr2-note" hnote).trans ((hget _).trans (by decide))
  · exact (hlater 2 (by decide) "fr3-decoder" (by decide)).trans ((hget _).trans (by decide))
  · exact (hlater 3 (by decide) "fr4-connected" (by decide)).trans ((hget _).trans (by decide))

end Page

end DetectorDashboard
