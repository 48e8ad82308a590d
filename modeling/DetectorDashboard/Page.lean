import Std.Data.ExtTreeMap
import DetectorDashboard.Indicator
import DetectorDashboard.Timestamp

/-!
What the dashboard shows: a cell for every element id that has been rendered, and the time of the
last rendering. Two pages with the same cells are equal, however they came about.
-/

namespace DetectorDashboard

inductive Cell
  | empty
  | text (s : String)
  | indicator (i : Indicator)
deriving DecidableEq

structure Page where
  cells : Std.ExtTreeMap String Cell := ∅
  updatedAt : Option Timestamp := none

namespace Cell

def text? : Cell → Option String
  | .text s => some s
  | _ => none

def indicator? : Cell → Option Indicator
  | .indicator i => some i
  | _ => none

def html : Cell → Html.Document
  | .empty => []
  | .text s => [.text s]
  | .indicator i => i.html

def json : Cell → Json
  | .empty => .object [("kind", .string "empty")]
  | .text s => .object [("kind", .string "text"), ("value", .string s)]
  | .indicator i => .object [("kind", .string "indicator"), ("value", i.json)]

end Cell

namespace Page

def empty : Page := {}

def get? (p : Page) (id : String) : Option Cell :=
  p.cells[id]?

def set (p : Page) (id : String) (cell : Cell) : Page :=
  { p with cells := p.cells.insert id cell }

def erase (p : Page) (id : String) : Page :=
  { p with cells := p.cells.erase id }

def touch (p : Page) (now : Timestamp) : Page :=
  { p with updatedAt := some now }

/-- The cells in the order of their ids. -/
def toList (p : Page) : List (String × Cell) :=
  p.cells.toList

/-- Replaces the cells of a list, the last one for an id counting. -/
def setAll (p : Page) (cells : List (String × Cell)) : Page :=
  cells.foldl (fun p c => p.set c.1 c.2) p

/-- The text shown under an id; there is none in an empty cell or beside an indicator. -/
def text (p : Page) (id : String) : String :=
  ((p.get? id).bind Cell.text?).getD ""

def indicator? (p : Page) (id : String) : Option Indicator :=
  (p.get? id).bind Cell.indicator?

def html (p : Page) (id : String) : Html.Document :=
  ((p.get? id).map Cell.html).getD []

def json (p : Page) : Json :=
  .object
    [ ("cells", .object (p.toList.map fun c => (c.1, c.2.json))),
      ("updated_at", ((p.updatedAt.map fun t => Json.string t.text)).getD .null) ]

theorem get?_set (p : Page) (id other : String) (cell : Cell) :
    (p.set id cell).get? other = if id = other then some cell else p.get? other := by
  simp [get?, set, Std.ExtTreeMap.getElem?_insert]

theorem get?_erase (p : Page) (id other : String) :
    (p.erase id).get? other = if id = other then none else p.get? other := by
  simp [get?, erase, Std.ExtTreeMap.getElem?_erase]

end Page

end DetectorDashboard
