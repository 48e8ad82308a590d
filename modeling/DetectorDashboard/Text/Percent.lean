import DetectorDashboard.Text.Digits
import DetectorDashboard.Text.Utf8

/-!
Percent escapes: `%` and two hexadecimal digits stand for one byte. An escape that lacks a digit
stands for itself.
-/

namespace DetectorDashboard.Text.Percent

/-- The value of a byte that is a hexadecimal digit. -/
def hexValue? (b : UInt8) : Option Nat :=
  Text.hexValue? (Char.ofNat b.toNat)

/-- The byte that two hexadecimal digits denote. -/
def escaped? (high low : UInt8) : Option UInt8 := do
  let h ← hexValue? high
  let l ← hexValue? low
  some (UInt8.ofNat (h * 16 + l))

def decode : List UInt8 → List UInt8
  | 0x25 :: high :: low :: rest =>
    match escaped? high low with
    | some b => b :: decode rest
    | none => 0x25 :: decode (high :: low :: rest)
  | b :: rest => b :: decode rest
  | [] => []

/-- The bytes a text escapes: those of its UTF-8 form, with the escapes resolved. -/
def bytesOf (s : String) : List UInt8 :=
  decode (Utf8.encode s.toList)

/-- The text with its escapes resolved, and repaired where they do not spell UTF-8. -/
def repaired (s : String) : String :=
  String.ofList (Utf8.repair (bytesOf s))

/-- The text with its escapes resolved, if they spell UTF-8. -/
def strict? (s : String) : Option String :=
  (Utf8.decode? (bytesOf s)).map String.ofList

/-- The escape of a byte. -/
def escape (b : UInt8) : List Char :=
  '%' :: (Text.hexDigits 2 b.toNat).map Char.toUpper

/-- The text with every character that `keep` does not keep written as escapes. -/
def encode (keep : Char → Bool) (cs : List Char) : List Char :=
  cs.flatMap fun c => if keep c then [c] else (Utf8.encode [c]).flatMap escape

end DetectorDashboard.Text.Percent
