import DetectorDashboard.Page
import DetectorDashboard.Status.Basic

/-!
Tables of units, one row for each. A unit is known by its place in the list alone: the unit in
place `i`, counted from 0, has row `i + 1`. Rendering replaces a table as a whole, so that the rows
of a list that has become shorter are emptied, and rows beyond the size of the table are dropped.
-/

namespace DetectorDashboard

inductive UnitKind
  | receiver
  | processor
deriving DecidableEq

/-- A column and what it shows of a unit. -/
structure Column (α : Type) where
  name : String
  cell : α → Cell

namespace Column

def lamp {α : Type} (name : String) (on : α → Bool) : Column α :=
  ⟨name, fun x => .indicator (.healthy (on x))⟩

def text {α : Type} (name : String) (text : α → String) : Column α :=
  ⟨name, fun x => .text (text x)⟩

def count {α : Type} (name : String) (n : α → UInt64) : Column α :=
  text name fun x => Text.decimal (n x).toNat

end Column

def Receiver.columns : List (Column Receiver) :=
  [ .lamp "buffer-manager" (·.bufferManager),
    .lamp "rx-thread" (·.receiveThread),
    .lamp "decoder" (·.decoder),
    .lamp "ipc" (·.channel),
    .lamp "config-complete" (·.complete),
    .count "empty-buffers" (·.emptyBuffers),
    .count "frames-received" (·.received),
    .count "frames-timed-out" (·.timedOut),
    .count "frames-released" (·.released) ]

/-- The frames written so far, out of those to be written. -/
def Processor.progress (p : Processor) : String :=
  Text.decimal p.written.toNat ++ " / " ++ Text.decimal p.maximum.toNat

def Processor.columns : List (Column Processor) :=
  [ .lamp "shared-mem" (·.sharedMemory),
    .count "hdf-processes" (·.processes),
    .text "hdf-rank" fun p => Text.decimalInt p.rank.toInt,
    .text "hdf-written" (·.progress),
    .text "hdf-file-path" fun p => p.fileName.getD "",
    .lamp "writing" (·.writing) ]

namespace UnitKind

/-- The start of the ids of the rows. -/
def stem : UnitKind → String
  | .receiver => "fr"
  | .processor => "fp"

/-- The columns beside the one that shows the connection. -/
def columnNames : UnitKind → List String
  | .receiver => Receiver.columns.map (·.name)
  | .processor => Processor.columns.map (·.name)

def rowId (kind : UnitKind) (i : Nat) : String :=
  kind.stem ++ Text.decimal (i + 1)

def cellId (kind : UnitKind) (i : Nat) (column : String) : String :=
  kind.rowId i ++ "-" ++ column

def connectedColumn : String := "connected"

def connectedId (kind : UnitKind) (i : Nat) : String :=
  kind.cellId i connectedColumn

/-- What a connected unit of the kind reports about itself. -/
def Detail : UnitKind → Type
  | .receiver => Receiver
  | .processor => Processor

def detailColumns : (kind : UnitKind) → List (Column kind.Detail)
  | .receiver => Receiver.columns
  | .processor => Processor.columns

end UnitKind

/-- The cells of a row. A row beyond the list is empty, and so are the details of a unit that is
not connected. -/
def UnitKind.rowCells {α : Type} (kind : UnitKind) (columns : List (Column α)) (i : Nat)
    (unit? : Option (UnitStatus α)) : List (String × Cell) :=
  let connection : Cell := match unit? with
    | none => .empty
    | some unit => .indicator (.healthy unit.isConnected)
  let detail? := unit?.bind (·.shown?)
  (kind.connectedId i, connection)
    :: columns.map fun c => (kind.cellId i c.name, (detail?.map c.cell).getD .empty)

namespace Page

def hasRow (p : Page) (kind : UnitKind) (i : Nat) : Bool :=
  (p.get? (kind.connectedId i)).isSome

/-- How many rows the table has, up to the first that is not there. A page of `n` cells cannot have
more than `n`. -/
def rowCount (p : Page) (kind : UnitKind) : Nat :=
  ((List.range (p.cells.size + 1)).takeWhile (p.hasRow kind)).length

def eraseRow (kind : UnitKind) (p : Page) (i : Nat) : Page :=
  kind.columnNames.foldl (fun p name => p.erase (kind.cellId i name)) (p.erase (kind.connectedId i))

/-- Drops row `first` and those after it, up to the first that is not there. -/
def eraseRowsFrom (p : Page) (kind : UnitKind) (first : Nat) : Page :=
  ((List.range' first (p.cells.size + 1)).takeWhile (p.hasRow kind)).foldl (eraseRow kind) p

/-- Renders a list of units as a table of at least `minimum` rows. -/
def setUnits {α : Type} (p : Page) (kind : UnitKind) (columns : List (Column α))
    (units : List (UnitStatus α)) (minimum : Nat) : Page :=
  let rows := max minimum units.length
  let cells := (List.range rows).flatMap fun i => kind.rowCells columns i units[i]?
  (p.setAll cells).eraseRowsFrom kind rows

/-- Renders a list of units as the table of their kind, and counts its rows. -/
def renderUnits (p : Page) (kind : UnitKind) (units : List (UnitStatus kind.Detail))
    (minimum : Nat) : Nat × Page :=
  (max minimum units.length, p.setUnits kind kind.detailColumns units minimum)

end Page

end DetectorDashboard
