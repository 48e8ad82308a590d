import DetectorDashboard.Binary64.Basic
import DetectorDashboard.Toml.Datetime

/-!
The tree of a TOML document, and the ways to add to it. A table may be given by a header, implied
by the header of another table inside it, made by a dotted key, or written inline; which of these
it was decides what may still be added to it.
-/

namespace DetectorDashboard.Toml

/-- How a table came about. -/
inductive Origin
  | header
  | implied
  | dotted
  | inline
deriving DecidableEq

inductive Node
  | string (s : String)
  | integer (n : Int)
  | float (x : Binary64)
  | boolean (b : Bool)
  | datetime (d : Datetime)
  | array (items : List Node)
  | table (origin : Origin) (entries : List (String × Node))
  /-- An array of tables given by headers, the last one first. -/
  | tables (rows : List (List (String × Node)))

abbrev Entries := List (String × Node)

namespace Entries

def put (entries : Entries) (key : String) (node : Node) : Entries :=
  (entries.filter (·.1 ≠ key)) ++ [(key, node)]

/-- Changes the table at the end of a path, and makes the tables on the way that are missing. The
path of a dotted key does not pass through a table that a header gave. -/
def descend (dotted : Bool) (change : Origin → Entries → Option Entries) :
    List String → Origin → Entries → Option Entries
  | [], origin, entries => change origin entries
  | key :: path, _, entries =>
    match entries.lookup key with
    | none =>
      let origin : Origin := if dotted then .dotted else .implied
      (descend dotted change path origin []).map fun inner =>
        entries.put key (.table origin inner)
    | some (.table origin inner) =>
      if origin = .inline ∨ (dotted ∧ origin = .header) then none
      else (descend dotted change path origin inner).map fun inner =>
        entries.put key (.table origin inner)
    | some (.tables (row :: rows)) =>
      (descend dotted change path .header row).map fun row =>
        entries.put key (.tables (row :: rows))
    | some _ => none

/-- Gives a key its value. A dotted key adds only to a table that dotted keys have made. -/
def assign (path : List String) (key : String) (node : Node) (origin : Origin)
    (entries : Entries) : Option Entries :=
  let add (reached : Origin) (entries : Entries) : Option Entries :=
    if (reached = .dotted ↔ path = []) ∨ (entries.lookup key).isSome then none
    else some (entries.put key node)
  descend true add path origin entries

/-- Opens the table of a header. Only a table that was merely implied may be opened again. -/
def openTable (path : List String) (key : String) (entries : Entries) : Option Entries :=
  let start (_ : Origin) (entries : Entries) : Option Entries :=
    match entries.lookup key with
    | none => some (entries.put key (.table .header []))
    | some (.table .implied inner) => some (entries.put key (.table .header inner))
    | some _ => none
  descend false start path .header entries

/-- Opens a new table at the end of an array of tables. -/
def openRow (path : List String) (key : String) (entries : Entries) : Option Entries :=
  let start (_ : Origin) (entries : Entries) : Option Entries :=
    match entries.lookup key with
    | none => some (entries.put key (.tables [[]]))
    | some (.tables rows) => some (entries.put key (.tables ([] :: rows)))
    | some _ => none
  descend false start path .header entries

end Entries

end DetectorDashboard.Toml
