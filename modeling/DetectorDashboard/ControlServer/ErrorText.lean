import DetectorDashboard.Json.Written
import DetectorDashboard.Text.Utf8

/-!
The error text that the control server sends along with a refusal: the one `error` member of an
object, or the one item of an array. Other members only have to be well formed, to any depth and
with numbers of any size, so the body is read as bytes and only the strings that matter are
decoded.
-/

namespace DetectorDashboard.ControlServer

namespace ErrorText

/-- The text of a string whose characters each stand for one byte. -/
def ofPieces? (pieces : List Json.Piece) : Option String := do
  let raw (c : Char) : List UInt8 := [UInt8.ofNat c.toNat]
  let escaped (c : Char) : List UInt8 := Text.Utf8.encode [c]
  let bytes ← Json.Piece.decode? raw escaped pieces
  let cs ← Text.Utf8.decode? bytes.flatten
  some (String.ofList cs)

/-- The value of the only member with the key, when all keys can be read. -/
def member? (key : String) (members : List (List Json.Piece × Json.Written)) :
    Option Json.Written := do
  let keyed ← members.mapM fun m => (ofPieces? m.1).map fun k => (k, m.2)
  match keyed.filter (·.1 == key) with
  | [(_, v)] => some v
  | _ => none

def ofText? : Json.Written → Option String
  | .text pieces => ofPieces? pieces
  | _ => none

def ofWritten? : Json.Written → Option String
  | .object members => (member? "error" members).bind ofText?
  | .array [item] => ofText? item
  | _ => none

/-- The error text of a body, if it has one. -/
def ofBody? (body : List UInt8) : Option String :=
  (Json.Written.read? (body.map fun b => Char.ofNat b.toNat)).bind ofWritten?

end ErrorText

end DetectorDashboard.ControlServer
