import DetectorDashboard.Schema.Error

/-!
Decoders of single JSON values: numbers within a range, texts, lists and choices among names.
-/

namespace DetectorDashboard.Schema

abbrev Decoder (α : Type) := Json → Except DecodeError α

def Decoder.map {α β : Type} (f : α → β) (d : Decoder α) : Decoder β :=
  fun v => (d v).map f

/-- A whole number that `ofInt?` takes; a floating-point number never is one. -/
def integer {α : Type} (description : String) (ofInt? : Int → Option α) : Decoder α
  | .number (.integer n) =>
    match ofInt? n.value with
    | some x => .ok x
    | none => .error (.invalidValue (.number (.integer n)) (.value description))
  | v => .error (.invalidType v (.value description))

def uint64 : Decoder UInt64 :=
  integer "u64" fun n => if 0 ≤ n ∧ n < UInt64.size then some (UInt64.ofNat n.toNat) else none

def uint32 : Decoder UInt32 :=
  integer "u32" fun n => if 0 ≤ n ∧ n < UInt32.size then some (UInt32.ofNat n.toNat) else none

def int64 : Decoder Int64 :=
  integer "i64" fun n =>
    if Int64.minValue.toInt ≤ n ∧ n ≤ Int64.maxValue.toInt then some (Int64.ofInt n) else none

/-- Any number, as the nearest floating-point number. -/
def binary64 : Decoder Binary64
  | .number n => .ok n.toBinary64
  | v => .error (.invalidType v (.value "f64"))

def number : Decoder Json.Number
  | .number n => .ok n
  | v => .error (.invalidType v (.value "a JSON number"))

def string : Decoder String
  | .string s => .ok s
  | v => .error (.invalidType v (.value "a string"))

def bool : Decoder Bool
  | .bool b => .ok b
  | v => .error (.invalidType v (.value "a boolean"))

def unit : Decoder Unit
  | .null => .ok ()
  | v => .error (.invalidType v (.value "unit"))

def list {α : Type} (item : Decoder α) : Decoder (List α)
  | .array items => items.mapM item
  | v => .error (.invalidType v (.value "a sequence"))

def anything : Decoder Json :=
  .ok

/-- The choice that has a name, among those listed. -/
def named {α : Type} (choices : List (String × α)) (name : String) : Except DecodeError α :=
  match choices.lookup name with
  | some x => .ok x
  | none => .error (.unknownVariant name (choices.map (·.1)))

/-- A choice, given by its name or by an object whose one member has that name and is null. -/
def choice {α : Type} (choices : List (String × α)) : Decoder α
  | .string name => named choices name
  | .object [(name, v)] => do
    let x ← named choices name
    unit v
    return x
  | .object members => .error (.invalidValue (.object members) (.value "map with a single key"))
  | v => .error (.invalidType v (.value "string or map"))

end DetectorDashboard.Schema
