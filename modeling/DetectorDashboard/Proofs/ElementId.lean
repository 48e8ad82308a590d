import Mathlib.Data.List.Basic
import DetectorDashboard.Render

/-! Element ids. The id of a cell in a unit table is made of a stem, a row number and a column, with
a dash after the number: since no digit is a dash, the id determines all three, and since both stems
begin with the same letter and no single value's id does, tables and single values do not meet. -/

namespace DetectorDashboard

namespace Text

theorem digits_injective {m n : Nat} (h : digits m = digits n) : m = n := by
  have hread := readDigits?_digits m
  rw [h, readDigits?_digits n] at hread
  exact (Option.some.inj hread).symm

theorem isDigit_of_mem_digits {n : Nat} {c : Char} (h : c ∈ digits n) : c.isDigit = true :=
  Nat.isDigit_of_mem_toDigits (by decide) (by decide) h

theorem ne_dash_of_mem_digits {n : Nat} {c : Char} (h : c ∈ digits n) : c ≠ '-' := by
  rintro rfl
  exact absurd (isDigit_of_mem_digits h) (by decide)

/-- A text splits in only one way into a run of characters of some kind, a character that is not of
the kind, and a rest. -/
theorem append_cons_inj {p : Char → Prop} {s t u v : List Char} {c d : Char}
    (hs : ∀ x ∈ s, p x) (ht : ∀ x ∈ t, p x) (hc : ¬ p c) (hd : ¬ p d)
    (h : s ++ c :: u = t ++ d :: v) : s = t ∧ c = d ∧ u = v := by
  induction s generalizing t with
  | nil =>
      cases t with
      | nil => exact ⟨rfl, List.cons_eq_cons.mp h⟩
      | cons y t =>
          have hy : c = y := (List.cons_eq_cons.mp h).1
          exact absurd (ht y List.mem_cons_self) (hy ▸ hc)
  | cons x s ih =>
      cases t with
      | nil =>
          have hx : x = d := (List.cons_eq_cons.mp h).1
          exact absurd (hs x List.mem_cons_self) (hx ▸ hd)
      | cons y t =>
          obtain ⟨hxy, hrest⟩ := List.cons_eq_cons.mp h
          obtain ⟨hst, hcd⟩ := ih (fun z hz => hs z (List.mem_cons_of_mem _ hz))
            (fun z hz => ht z (List.mem_cons_of_mem _ hz)) hrest
          exact ⟨by rw [hxy, hst], hcd⟩

end Text

namespace CellId

/-- The ids of the cells that stand outside the unit tables. -/
def single : List String :=
  [apiVersion, adapters, exposure, period, images, complete, state]

end CellId

namespace UnitKind

theorem toList_rowId (kind : UnitKind) (i : Nat) :
    (kind.rowId i).toList = kind.stem.toList ++ Text.digits (i + 1) := by
  simp [rowId, Text.decimal]

theorem toList_cellId (kind : UnitKind) (i : Nat) (column : String) :
    (kind.cellId i column).toList =
      kind.stem.toList ++ (Text.digits (i + 1) ++ '-' :: column.toList) := by
  have hdash : "-".toList = ['-'] := rfl
  simp [cellId, toList_rowId, hdash]

theorem stem_injective {kind kind' : UnitKind} {s t : List Char}
    (h : kind.stem.toList ++ s = kind'.stem.toList ++ t) : kind = kind' ∧ s = t := by
  have hreceiver : UnitKind.receiver.stem.toList = ['f', 'r'] := rfl
  have hprocessor : UnitKind.processor.stem.toList = ['f', 'p'] := rfl
  cases kind <;> cases kind' <;> simp_all

theorem cellId_injective {kind kind' : UnitKind} {i j : Nat} {c d : String}
    (h : kind.cellId i c = kind'.cellId j d) : kind = kind' ∧ i = j ∧ c = d := by
  have hlist := congrArg String.toList h
  rw [toList_cellId, toList_cellId] at hlist
  obtain ⟨hkind, hrest⟩ := stem_injective hlist
  obtain ⟨hdigits, -, hcolumn⟩ := Text.append_cons_inj (p := (· ≠ '-'))
    (fun _ hx => Text.ne_dash_of_mem_digits hx) (fun _ hx => Text.ne_dash_of_mem_digits hx)
    (by simp) (by simp) hrest
  have := Text.digits_injective hdigits
  exact ⟨hkind, by omega, String.toList_injective hcolumn⟩

theorem cellId_notMem_single (kind : UnitKind) (i : Nat) (column : String) :
    kind.cellId i column ∉ CellId.single := by
  have hhead : (kind.cellId i column).toList.head? = some 'f' := by
    rw [toList_cellId]
    cases kind <;> rfl
  intro h
  have hsingle : ∀ id ∈ CellId.single, id.toList.head? ≠ some 'f' := by decide
  exact hsingle _ h hhead

/-- All columns of a table, in the order in which they are shown. -/
def columns (kind : UnitKind) : List String :=
  connectedColumn :: kind.columnNames

theorem nodup_columns (kind : UnitKind) : kind.columns.Nodup := by
  cases kind <;> decide

/-- The ids of a row's cells. -/
def rowCellIds (kind : UnitKind) (i : Nat) : List String :=
  kind.columns.map (kind.cellId i)

/-- Whether an id belongs to a cell of the table. -/
def IsCell (kind : UnitKind) (id : String) : Prop :=
  ∃ i, id ∈ kind.rowCellIds i

theorem mem_rowCellIds {kind : UnitKind} {i : Nat} {id : String} :
    id ∈ kind.rowCellIds i ↔ ∃ column ∈ kind.columns, kind.cellId i column = id :=
  List.mem_map

theorem row_eq_of_mem {kind kind' : UnitKind} {i j : Nat} {id : String}
    (hi : id ∈ kind.rowCellIds i) (hj : id ∈ kind'.rowCellIds j) : kind = kind' ∧ i = j := by
  obtain ⟨c, -, rfl⟩ := mem_rowCellIds.mp hi
  obtain ⟨d, -, hd⟩ := mem_rowCellIds.mp hj
  obtain ⟨hkind, hrow, -⟩ := cellId_injective hd
  exact ⟨hkind.symm, hrow.symm⟩

end UnitKind

end DetectorDashboard
