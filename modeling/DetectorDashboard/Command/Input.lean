import DetectorDashboard.Command.Basic
import DetectorDashboard.Text.Blank
import DetectorDashboard.Text.Quoted

/-!
Commands read from input fields. Blanks around an input do not count; a time has to be a finite
number without a minus sign, and a count a whole number below `2 ^ 64`.
-/

namespace DetectorDashboard

inductive InputField
  | exposure
  | period
  | images
  | frames
deriving DecidableEq

inductive ValidationError
  | empty (field : InputField)
  | notANumber (field : InputField) (input : String)
  | notAnInteger (field : InputField) (input : String)
deriving DecidableEq

def InputField.name : InputField → String
  | .exposure => "exposure"
  | .period => "period"
  | .images => "nimages"
  | .frames => "frames"

namespace ValidationError

def message : ValidationError → String
  | .empty field => s!"{field.name} must not be empty"
  | .notANumber field input =>
    s!"{field.name} must be a non-negative number, got {Text.quoted input}"
  | .notAnInteger field input =>
    s!"{field.name} must be a non-negative integer, got {Text.quoted input}"

end ValidationError

namespace Command

/-- A finite number without a minus sign. -/
def readSeconds? (cs : List Char) : Option Binary64.Magnitude :=
  match Binary64.read? cs with
  | some (.finite x) => if x.negative then none else some x.magnitude
  | _ => none

def readCount? (cs : List Char) : Option UInt64 :=
  (Text.readUnsigned? UInt64.size cs).map UInt64.ofNat

/-- Reads an input without the blanks around it; the error names the input as it was given. -/
def readField {α : Type} (field : InputField) (read? : List Char → Option α)
    (refused : InputField → String → ValidationError) (input : String) :
    Except ValidationError α :=
  let trimmed := Text.trim input
  if trimmed = "" then .error (.empty field)
  else match read? trimmed.toList with
    | some x => .ok x
    | none => .error (refused field input)

def exposure (input : String) : Except ValidationError Command :=
  (readField .exposure readSeconds? .notANumber input).map .setExposure

def period (input : String) : Except ValidationError Command :=
  (readField .period readSeconds? .notANumber input).map .setPeriod

def imageCount (input : String) : Except ValidationError Command :=
  (readField .images readCount? .notAnInteger input).map .setImageCount

def writer (frames path filename : String) : Except ValidationError Command :=
  (readField .frames readCount? .notAnInteger frames).map fun n =>
    .setWriter n (Text.trim path) (Text.trim filename)

end Command

end DetectorDashboard
