import DetectorDashboard.Text.Percent

/-!
Form bodies: names and values between `&` and `=`, a space written as `+` and bytes as percent
escapes.
-/

namespace DetectorDashboard.Http

abbrev Form := List (String × String)

namespace Form

def ampersand : UInt8 := 0x26
def equals : UInt8 := 0x3D
def plus : UInt8 := 0x2B
def space : UInt8 := 0x20

/-- The pieces between the ampersands, empty ones left out. -/
def pieces (bytes : List UInt8) : List (List UInt8) :=
  (bytes.splitBy fun b c => b ≠ ampersand && c ≠ ampersand).filter (·.head? ≠ some ampersand)

/-- The text of an encoded name or value, repaired where it is not UTF-8. -/
def decoded (bytes : List UInt8) : String :=
  let spaced := bytes.map fun b => if b = plus then space else b
  String.ofList (Text.Utf8.repair (Text.Percent.decode spaced))

/-- A piece without an equals sign is a name with an empty value. -/
def field (piece : List UInt8) : String × String :=
  (decoded (piece.takeWhile (· ≠ equals)), decoded ((piece.dropWhile (· ≠ equals)).drop 1))

def ofBody (body : List UInt8) : Form :=
  (pieces body).map field

/-- The first name among `known` that comes up a second time. -/
def repeated? (known : List String) : List String → Form → Option String
  | _, [] => none
  | seen, (name, _) :: rest =>
    if name ∈ known ∧ name ∈ seen then some name else repeated? known (name :: seen) rest

/-- The value of a field; a missing field is empty. -/
def value (form : Form) (name : String) : String :=
  (form.lookup name).getD ""

end Form

end DetectorDashboard.Http
