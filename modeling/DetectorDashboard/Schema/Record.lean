import DetectorDashboard.Schema.Decoder

/-!
Records decoded from an object, by the names of their fields, or from an array, by their places.

In an object every member that has the name of a field is decoded where it stands, so that of
several faulty members the first one is reported; members with other names are passed over. A
missing field is reported after that, the first in the order in which the fields are declared.
-/

namespace DetectorDashboard.Schema

/-- Where the values of the fields are found, and what is wrong when one is not. -/
structure Source where
  value? : String → Option Json
  missing : String → DecodeError

/-- Fields in the order of their declaration: their names, the fault of a value given for one of
them, and the reading of all of them. -/
structure Fields (α : Type) where
  names : List String
  fault? : String → Json → Option DecodeError
  read : Source → Except DecodeError α

namespace Source

def ofMembers (members : List (String × Json)) : Source where
  value? name := Json.lookup name members
  missing := .missingField

def ofItems (record : String) (names : List String) (items : List Json) : Source where
  value? name := (names.zip items).lookup name
  missing name := .invalidLength (names.idxOf name) (.elements record names.length)

end Source

namespace Fields

/-- The fault, if any, that a decoder finds in a value. -/
def faultOf? {α : Type} (d : Decoder α) (v : Json) : Option DecodeError :=
  match d v with
  | .ok _ => none
  | .error e => some e

def required {α : Type} (name : String) (d : Decoder α) : Fields α where
  names := [name]
  fault? key v := if key = name then faultOf? d v else none
  read source :=
    match source.value? name with
    | some v => d v
    | none => .error (source.missing name)

/-- Null is as good as no value. -/
def orNull {α : Type} (d : Decoder α) : Decoder (Option α)
  | .null => .ok none
  | v => (d v).map some

def optional {α : Type} (name : String) (d : Decoder α) : Fields (Option α) where
  names := [name]
  fault? key v := if key = name then faultOf? (orNull d) v else none
  read source :=
    match source.value? name with
    | some v => orNull d v
    | none => .ok none

instance : Functor Fields where
  map f fields := { fields with read := fun source => (fields.read source).map f }

/-- The fields of both, those of the first being declared first. -/
instance : Seq Fields where
  seq first second :=
    let later := second ()
    { names := first.names ++ later.names
      fault? := fun key v => first.fault? key v <|> later.fault? key v
      read := fun source => do
        let f ← first.read source
        let x ← later.read source
        return f x }

end Fields

def record {α : Type} (name : String) (fields : Fields α) : Decoder α
  | .object members =>
    match members.findSome? fun m => fields.fault? m.1 m.2 with
    | some e => .error e
    | none => fields.read (.ofMembers members)
  | .array items => do
    let x ← fields.read (.ofItems name fields.names items)
    if fields.names.length < items.length then
      throw (.invalidLength items.length .fewerElements)
    return x
  | v => .error (.invalidType v (.record name))

end DetectorDashboard.Schema
