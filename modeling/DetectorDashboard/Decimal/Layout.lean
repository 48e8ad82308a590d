import DetectorDashboard.Decimal.Shortest

/-!
The text of a floating-point number. A layout says where positional notation ends, whether a whole
number ends in `.0`, and which of two equally short texts is written. Two layouts are in use: that
of JSON texts and that of rounded values on the page.
-/

namespace DetectorDashboard

structure Layout where
  /-- Whether `0.d₁d₂… * 10 ^ point` is written without an exponent. -/
  positional : Int → Bool
  pointZero : Bool
  tie : Decimal.Tie

namespace Layout

/-- From `0.00001` to sixteen digits before the point, positional; a whole number ends in `.0`. -/
def json : Layout where
  positional point := -5 < point && point ≤ 16
  pointZero := true
  tie := .even

/-- Never an exponent, and nothing after a whole number. -/
def plain : Layout where
  positional _ := true
  pointZero := false
  tie := .up

/-- The digits of a decimal number without the zeros at the end, and the point for which the
number is `0.d₁d₂… * 10 ^ point`. -/
def significant (d : Decimal) : List Char × Int :=
  let digits := Text.digits d.coefficient
  let trimmed := (digits.reverse.dropWhile (· == '0')).reverse
  if trimmed = [] then (['0'], 1) else (trimmed, digits.length + d.exponent)

def zeros (n : Nat) : List Char :=
  List.replicate n '0'

def positionalText (pointZero : Bool) (digits : List Char) (point : Int) : List Char :=
  if point ≤ 0 then '0' :: '.' :: (zeros (-point).toNat ++ digits)
  else if digits.length ≤ point then
    digits ++ zeros (point - digits.length).toNat ++ if pointZero then ['.', '0'] else []
  else digits.take point.toNat ++ '.' :: digits.drop point.toNat

/-- One digit before the point, and the exponent with its sign. -/
def exponentText (digits : List Char) (point : Int) : List Char :=
  let fraction := digits.drop 1
  let exponent := point - 1
  digits.take 1 ++ (if fraction = [] then [] else '.' :: fraction)
    ++ 'e' :: (if exponent < 0 then '-' else '+') :: Text.digits exponent.natAbs

/-- The text of the number `0.d₁d₂… * 10 ^ point`. -/
def digitsText (l : Layout) (digits : List Char) (point : Int) : List Char :=
  if l.positional point then positionalText l.pointZero digits point
  else exponentText digits point

def magnitudeText (l : Layout) (m : Binary64.Magnitude) : List Char :=
  let written := significant (Decimal.shortest l.tie m)
  l.digitsText written.1 written.2

def finiteText (l : Layout) (x : Binary64.Finite) : List Char :=
  (if x.negative then ['-'] else []) ++ l.magnitudeText x.magnitude

def text (l : Layout) : Binary64 → String
  | .finite x => String.ofList (l.finiteText x)
  | .infinite false => "inf"
  | .infinite true => "-inf"
  | .nan => "NaN"

end Layout

end DetectorDashboard
