import DetectorDashboard.Text.Percent
import DetectorDashboard.Text.Pieces

/-!
The host of an address: a number of 32 bits, as a rule written as four parts between points, or a
name that has to be looked up. A host whose last part looks like a number has to be one.
-/

namespace DetectorDashboard.ControlServer

inductive Host
  | number (n : Nat)
  | name (s : String)
deriving DecidableEq

namespace Host

/-- The number that digits spell in a base. -/
def inBase? (base : Nat) (digits : List Char) : Option Nat := do
  let values ← digits.mapM Text.hexValue?
  if values.all (· < base) then some (values.foldl (fun n d => n * base + d) 0) else none

/-- A part is hexadecimal after `0x`, octal after another leading zero, and decimal otherwise. -/
def part? : List Char → Option Nat
  | [] => none
  | '0' :: 'x' :: digits => inBase? 16 digits
  | ['0'] => some 0
  | '0' :: digits => inBase? 8 digits
  | digits => inBase? 10 digits

/-- The parts between the points; a point at the end has none after it. -/
def parts (cs : List Char) : List (List Char) :=
  let all := Text.pieces (· = '.') cs
  if 1 < all.length ∧ all.getLast? = some [] then all.dropLast else all

/-- Whether the last part looks like a number. -/
def endsInNumber (cs : List Char) : Bool :=
  (parts cs).getLast?.any fun p => p ≠ [] && (p.all Char.isDigit || (part? p).isSome)

/-- Every part but the last stands for one byte, and the last for all bytes that are left. -/
def ofParts? (parts : List Nat) : Option Nat := do
  let last ← parts.getLast?
  let bytes := parts.dropLast
  let room := Nat.pow 256 (4 - bytes.length)
  if bytes.length < 4 ∧ bytes.all (· < 256) ∧ last < room then
    some (bytes.foldl (fun n b => n * 256 + b) 0 * room + last)
  else none

/-- What may not stand in a name. -/
def isForbidden (c : Char) : Bool :=
  c ≤ ' ' || c = '\x7f' || c ∈ ['#', '%', '/', ':', '<', '>', '?', '@', '[', '\\', ']', '^', '|']

/-- The host that a text with escapes denotes. -/
def read? (escaped : List Char) : Option Host := do
  let s ← Text.Percent.strict? (String.ofList escaped)
  let cs := s.toList.map Char.toLower
  if cs = [] ∨ cs.any isForbidden then none
  else if endsInNumber cs then ((parts cs).mapM part?).bind fun ns => (ofParts? ns).map .number
  else some (.name (String.ofList cs))

end Host

end DetectorDashboard.ControlServer
