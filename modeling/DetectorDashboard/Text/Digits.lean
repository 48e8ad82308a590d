/-!
Decimal digits: the text of a whole number and its reading. Reading undoes writing, and a text
that reads as a number holds digits only.
-/

namespace DetectorDashboard.Text

/-- The decimal digits of `n`, without leading zeros. -/
def digits (n : Nat) : List Char :=
  Nat.toDigits 10 n

def decimal (n : Nat) : String :=
  String.ofList (digits n)

def signedDigits : Int → List Char
  | .ofNat n => digits n
  | .negSucc n => '-' :: digits (n + 1)

def decimalInt (n : Int) : String :=
  String.ofList (signedDigits n)

/-- The number a run of digits denotes; an empty run denotes none. Leading zeros are allowed. -/
def readDigits? (cs : List Char) : Option Nat :=
  if cs ≠ [] ∧ cs.all Char.isDigit then some (Nat.ofDigitChars 10 cs 0) else none

/-- A run of digits, after an optional plus sign, whose number stays below `bound`. -/
def readUnsigned? (bound : Nat) (cs : List Char) : Option Nat :=
  let unsigned := match cs with
    | '+' :: rest => rest
    | _ => cs
  (readDigits? unsigned).filter (· < bound)

theorem readDigits?_digits (n : Nat) : readDigits? (digits n) = some n := by
  have nonempty : Nat.toDigits 10 n ≠ [] := Nat.toDigits_ne_nil
  have allDigits : (Nat.toDigits 10 n).all Char.isDigit = true :=
    List.all_eq_true.2 fun _ h => Nat.isDigit_of_mem_toDigits (by decide) (by decide) h
  simp [readDigits?, digits, nonempty, allDigits, Nat.ofDigitChars_ten_toDigits]

/-- The value of a hexadecimal digit, of either case. -/
def hexValue? (c : Char) : Option Nat :=
  if '0' ≤ c ∧ c ≤ '9' then some (c.toNat - '0'.toNat)
  else if 'a' ≤ c ∧ c ≤ 'f' then some (c.toNat - 'a'.toNat + 10)
  else if 'A' ≤ c ∧ c ≤ 'F' then some (c.toNat - 'A'.toNat + 10)
  else none

/-- The lower-case hexadecimal digits of `n`, at least `width` of them. -/
def hexDigits (width n : Nat) : List Char :=
  let cs := Nat.toDigits 16 n
  List.replicate (width - cs.length) '0' ++ cs

/-- The decimal digits of `n`, at least `width` of them. -/
def padded (width n : Nat) : String :=
  let cs := digits n
  String.ofList (List.replicate (width - cs.length) '0' ++ cs)

end DetectorDashboard.Text
