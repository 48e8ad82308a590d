import DetectorDashboard.Decimal.Spelling

/-!
The quick reading of a number, for texts that are read in bulk. Of its digits only those are kept
that fit a word of 64 bits together; the word and every power of ten that it is scaled by are
floating-point numbers, and each step is rounded. The result may therefore lie beside the nearest
floating-point number.
-/

namespace DetectorDashboard

namespace Decimal

/-- A decimal with more digits written after it, as long as the coefficient stays within a word. -/
def extend (d : Decimal) : List Char → Decimal
  | [] => d
  | c :: rest =>
    let coefficient := d.coefficient * 10 + (c.toNat - '0'.toNat)
    if coefficient < UInt64.size then extend ⟨coefficient, d.exponent - 1⟩ rest else d

end Decimal

namespace Binary64.Magnitude

/-- The exponent of the last power of ten that is no larger than every magnitude. -/
def lastPower : Nat := 308

def powerOfTen? (e : Nat) : Option Magnitude :=
  if e ≤ lastPower then ofNat? (Nat.pow 10 e) else none

def times? (m p : Magnitude) : Option Magnitude :=
  m.scale? p.quanta one

def over? (m p : Magnitude) : Option Magnitude :=
  m.scale? one p.quanta

/-- The magnitude multiplied by a power of ten; zero takes any power. -/
def raised? (m : Magnitude) (e : Nat) : Option Magnitude :=
  if m = zero then some zero else (powerOfTen? e).bind m.times?

/-- The magnitude divided so many times by the last power of ten, or until nothing is left, and
then by a smaller one. -/
def loweredBy? (m : Magnitude) (e : Nat) : Nat → Option Magnitude
  | 0 => (powerOfTen? e).bind m.over?
  | times + 1 =>
    if m = zero then some zero
    else (powerOfTen? lastPower).bind fun p => (m.over? p).bind fun m => m.loweredBy? e times

/-- The magnitude divided by a power of ten, in parts where the power is beyond the last. -/
def lowered? (m : Magnitude) (e : Nat) : Option Magnitude :=
  let times := (e - 1) / lastPower
  m.loweredBy? (e - times * lastPower) times

end Binary64.Magnitude

namespace Decimal

/-- The magnitude of the coefficient, scaled by the power of ten. -/
def scaled? (d : Decimal) : Option Binary64.Magnitude :=
  (Binary64.Magnitude.ofNat? d.coefficient).bind fun m =>
    match d.exponent with
    | .ofNat e => m.raised? e
    | .negSucc e => m.lowered? (e + 1)

end Decimal

namespace Spelling

/-- The number without its sign, cut to the digits that fit a word. Digits before the point that do
not fit still count as places; those after it do not. -/
def wordSized (s : Spelling) : Decimal :=
  let whole := Decimal.extend ⟨0, s.whole.length⟩ s.whole
  let d := whole.extend (s.fraction.getD [])
  { d with exponent := d.exponent + s.exponentValue }

end Spelling

end DetectorDashboard
