import DetectorDashboard.Schema.Record
import DetectorDashboard.Text.Blank

/-!
Two-state flags as the control server sends them: a boolean, a number, a text or nothing at all.
-/

namespace DetectorDashboard.Flag

/-- Off are `null`, `false`, every zero, a blank text, and the texts `0` and `false` between
blanks. -/
def isOn : Json → Bool
  | .null => false
  | .bool b => b
  | .number n => !n.isZero
  | .string s => Text.trim s ∉ ["", "0", "false"]
  | .array _ => true
  | .object _ => true

def decoder : Schema.Decoder Bool :=
  Schema.anything.map isOn

/-- Whether the `connected` member of a unit says that it is connected. -/
def isConnected : Json → Bool
  | .bool b => b
  | .string s => s == "true"
  | _ => false

end DetectorDashboard.Flag
