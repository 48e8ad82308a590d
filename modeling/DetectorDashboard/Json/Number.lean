import DetectorDashboard.Decimal.Layout
import DetectorDashboard.Decimal.WordSized

/-!
The numbers of a JSON text: whole numbers in the joint range of the signed and the unsigned words
of 64 bits, and floating-point numbers for all others, which are read the quick way. A spelling
that lies beyond the floating-point numbers is no number.
-/

namespace DetectorDashboard.Json

structure Integer where
  value : Int
  inRange : Int64.minValue.toInt ≤ value ∧ value < UInt64.size
deriving DecidableEq

inductive Number
  | integer (n : Integer)
  | float (x : Binary64.Finite)
deriving DecidableEq

namespace Integer

def ofInt? (n : Int) : Option Integer :=
  if h : Int64.minValue.toInt ≤ n ∧ n < UInt64.size then some ⟨n, h⟩ else none

def ofUInt64 (n : UInt64) : Integer where
  value := n.toNat
  inRange := by
    have least : Int64.minValue.toInt ≤ 0 := by decide
    have := n.toNat_lt_size
    omega

end Integer

namespace Number

def count (n : UInt64) : Number :=
  .integer (.ofUInt64 n)

/-- A whole spelling within range is an integer, except that `-0` keeps its sign. -/
def ofSpelling? (s : Spelling) : Option Number :=
  let magnitude := Nat.ofDigitChars 10 s.whole 0
  let signed : Int := if s.negative then -magnitude else magnitude
  let float? : Option Number := s.wordSized.scaled?.map fun m => .float ⟨s.negative, m⟩
  if s.isWhole ∧ ¬(s.negative ∧ magnitude = 0) then
    match Integer.ofInt? signed with
    | some n => some (.integer n)
    | none => float?
  else float?

def toBinary64 : Number → Binary64
  | .integer n => .ofMagnitude? (n.value < 0) (Binary64.Magnitude.ofNat? n.value.natAbs)
  | .float x => .finite x

def isZero : Number → Bool
  | .integer n => n.value = 0
  | .float x => x.magnitude.quanta = 0

def chars : Number → List Char
  | .integer n => Text.signedDigits n.value
  | .float x => Layout.json.finiteText x

def text (n : Number) : String :=
  String.ofList n.chars

end Number

end DetectorDashboard.Json
