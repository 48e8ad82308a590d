import DetectorDashboard.Json.Printer
import DetectorDashboard.Text.Quoted

/-!
Why a JSON value does not have the shape asked for, and the sentence that says so.
-/

namespace DetectorDashboard.Schema

/-- What a value was expected to be. -/
inductive Expected
  | value (description : String)
  | record (name : String)
  | elements (record : String) (count : Nat)
  | fewerElements

inductive DecodeError
  | invalidType (found : Json) (expected : Expected)
  /-- The right type, but out of range or too long. -/
  | invalidValue (found : Json) (expected : Expected)
  | invalidLength (length : Nat) (expected : Expected)
  | missingField (name : String)
  | unknownVariant (name : String) (variants : List String)
  | notVersion (found : Json)

namespace Expected

def text : Expected → String
  | .value description => description
  | .record name => s!"struct {name}"
  | .elements name count =>
    let noun := if count = 1 then "element" else "elements"
    s!"struct {name} with {Text.decimal count} {noun}"
  | .fewerElements => "fewer elements in array"

end Expected

namespace DecodeError

def between (mark : String) (s : String) : String :=
  mark ++ s ++ mark

def ticked : String → String :=
  between "`"

/-- A value as a message names it: scalars with their text, arrays and objects by their kind. -/
def describe : Json → String
  | .null => "null"
  | .bool b => "boolean " ++ ticked (if b then "true" else "false")
  | .number (.integer n) => "integer " ++ ticked (Text.decimalInt n.value)
  | .number (.float x) => "floating point " ++ ticked (Layout.json.text (.finite x))
  | .string s => "string " ++ Text.quoted s
  | .array _ => "sequence"
  | .object _ => "map"

def message : DecodeError → String
  | .invalidType found expected => s!"invalid type: {describe found}, expected {expected.text}"
  | .invalidValue found expected => s!"invalid value: {describe found}, expected {expected.text}"
  | .invalidLength length expected =>
    s!"invalid length {Text.decimal length}, expected {expected.text}"
  | .missingField name => "missing field " ++ ticked name
  | .unknownVariant name variants =>
    let known := ", ".intercalate (variants.map ticked)
    s!"unknown variant {ticked name}, expected one of {known}"
  | .notVersion found => s!"expected a version string or number, got {found.text}"

end DecodeError

end DetectorDashboard.Schema
