import DetectorDashboard.Binary64.Basic
import DetectorDashboard.Text.Digits

/-!
Decimal numbers `coefficient * 10 ^ exponent`, and the binary magnitude nearest to one.
-/

namespace DetectorDashboard

structure Decimal where
  coefficient : Nat
  exponent : Int
deriving DecidableEq

namespace Decimal

/-- The exponent, brought between two ends beyond which it changes nothing: above the one a number
other than zero exceeds every magnitude, below the other it rounds to zero. -/
def reach (d : Decimal) : Int :=
  max (-((Text.digits d.coefficient).length + 1100)) (min d.exponent 400)

/-- The binary magnitude nearest to the number, unless the number is too large. -/
def magnitude? (d : Decimal) : Option Binary64.Magnitude :=
  match d.reach with
  | .ofNat e => Binary64.Magnitude.ofRatio? (d.coefficient * Nat.pow 10 e * Binary64.one) 1
  | .negSucc e => Binary64.Magnitude.ofRatio? (d.coefficient * Binary64.one) (Nat.pow 10 (e + 1))

/-- The decimal number that a magnitude is. -/
def ofMagnitude (m : Binary64.Magnitude) : Decimal :=
  ⟨m.quanta * Nat.pow 5 Binary64.places, -Binary64.places⟩

end Decimal

end DetectorDashboard
