import DetectorDashboard.Json.Number
import DetectorDashboard.Json.Written

/-!
JSON values and their reading. Of the members of an object with one key the last counts, and the
members stand in the order of their keys; more than 127 arrays and objects inside one another are
refused.
-/

namespace DetectorDashboard

inductive Json
  | null
  | bool (b : Bool)
  | number (n : Json.Number)
  | string (s : String)
  | array (items : List Json)
  | object (members : List (String × Json))

namespace Json

/-- The first member with the key. -/
def lookup (key : String) (members : List (String × Json)) : Option Json :=
  (members.find? (·.1 == key)).map (·.2)

/-- The value of an object under a key. -/
def member? (key : String) : Json → Option Json
  | .object members => lookup key members
  | _ => none

/-- Puts a member in its place among members in the order of their keys, instead of one that has
its key. -/
def insert (key : String) (value : Json) : List (String × Json) → List (String × Json)
  | [] => [(key, value)]
  | (k, v) :: rest =>
    if key < k then (key, value) :: (k, v) :: rest
    else if key = k then (key, value) :: rest
    else (k, v) :: insert key value rest

def ofMembers (members : List (String × Json)) : Json :=
  .object (members.foldl (fun sorted m => insert m.1 m.2 sorted) [])

/-- How many arrays and objects may stand inside one another. -/
def depthLimit : Nat := 127

mutual

/-- The value of a written text, if `depth` levels suffice for it. -/
def ofWritten? (depth : Nat) : Written → Option Json
  | .null => some .null
  | .bool b => some (.bool b)
  | .number s => (Number.ofSpelling? s).map .number
  | .text pieces => (Piece.text? pieces).map .string
  | .array items =>
    match depth with
    | 0 => none
    | depth + 1 => (ofItems? depth items).map .array
  | .object members =>
    match depth with
    | 0 => none
    | depth + 1 => (ofMembers? depth members).map ofMembers

def ofItems? (depth : Nat) : List Written → Option (List Json)
  | [] => some []
  | w :: rest => (ofWritten? depth w).bind fun v => (ofItems? depth rest).map (v :: ·)

def ofMembers? (depth : Nat) : List (List Piece × Written) → Option (List (String × Json))
  | [] => some []
  | (key, w) :: rest => do
    let k ← Piece.text? key
    let v ← ofWritten? depth w
    let members ← ofMembers? depth rest
    some ((k, v) :: members)

end

/-- The value of a JSON text. -/
def read? (s : String) : Option Json :=
  (Written.read? s.toList).bind (ofWritten? depthLimit)

end Json

end DetectorDashboard
