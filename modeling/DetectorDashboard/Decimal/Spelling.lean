import DetectorDashboard.Decimal.Basic

/-!
Numbers as they are spelled: a sign, digits before and after a point, an exponent. Each notation
that uses such spellings says which parts it allows to be missing.
-/

namespace DetectorDashboard

/-- The parts of a spelled number. The exponent, where there is one, has at least one digit. -/
structure Spelling where
  sign : Option Char
  whole : List Char
  fraction : Option (List Char)
  exponent : Option (Option Char × List Char)
deriving DecidableEq

namespace Spelling

def readSign : List Char → Option Char × List Char
  | '+' :: rest => (some '+', rest)
  | '-' :: rest => (some '-', rest)
  | rest => (none, rest)

/-- The digits after a point, if a point comes first, and what follows. -/
def readFraction : List Char → Option (List Char) × List Char
  | '.' :: rest => (some (rest.takeWhile Char.isDigit), rest.dropWhile Char.isDigit)
  | rest => (none, rest)

def readExponent? : List Char → Option (Option (Option Char × List Char))
  | [] => some none
  | c :: rest =>
    let (sign, digits) := readSign rest
    if (c = 'e' ∨ c = 'E') ∧ digits ≠ [] ∧ digits.all Char.isDigit then some (some (sign, digits))
    else none

/-- The parts of a text that is spelled as a number from end to end. -/
def read? (cs : List Char) : Option Spelling :=
  let (sign, unsigned) := readSign cs
  let (fraction, rest) := readFraction (unsigned.dropWhile Char.isDigit)
  (readExponent? rest).map fun exponent =>
    ⟨sign, unsigned.takeWhile Char.isDigit, fraction, exponent⟩

def negative (s : Spelling) : Bool :=
  s.sign == some '-'

/-- Neither a point nor an exponent is written. -/
def isWhole (s : Spelling) : Bool :=
  s.fraction.isNone && s.exponent.isNone

def exponentValue (s : Spelling) : Int :=
  match s.exponent with
  | none => 0
  | some (sign, digits) =>
    let n := Nat.ofDigitChars 10 digits 0
    if sign = some '-' then -n else n

/-- The number without its sign. -/
def decimal (s : Spelling) : Decimal :=
  let fraction := s.fraction.getD []
  ⟨Nat.ofDigitChars 10 (s.whole ++ fraction) 0, s.exponentValue - fraction.length⟩

def binary64 (s : Spelling) : Binary64 :=
  .ofMagnitude? s.negative s.decimal.magnitude?

end Spelling

/-- A number as an input field takes it: digits on at least one side of the point, or one of the
words `inf`, `infinity` and `nan` in any case, after an optional sign. -/
def Binary64.read? (cs : List Char) : Option Binary64 :=
  let (sign, unsigned) := Spelling.readSign cs
  let word := String.ofList (unsigned.map Char.toLower)
  if word = "inf" ∨ word = "infinity" then some (.infinite (sign == some '-'))
  else if word = "nan" then some .nan
  else (Spelling.read? cs).bind fun s =>
    if s.whole ++ s.fraction.getD [] = [] then none else some s.binary64

end DetectorDashboard
