/-!
UTF-8 read one byte at a time. A sequence that no character completes is reported once for the
longest start of a character it holds; `decode?` refuses a text with such a sequence and `repair`
puts U+FFFD in its place.
-/

namespace DetectorDashboard.Text.Utf8

/-- A character whose first byte has been read: the tail bytes still owed after the next one, the
range in which the next one has to lie, and the bits read so far. -/
structure Partial where
  owed : Nat
  low : UInt8
  high : UInt8
  bits : Nat

/-- What a byte means where a character may start. -/
inductive Lead
  | character (c : Char)
  | start (p : Partial)
  | illFormed

/-- Overlong forms, surrogates and values above U+10FFFF are ruled out by the range of the second
byte. -/
def lead (b : UInt8) : Lead :=
  let n := b.toNat
  if n < 0x80 then .character (Char.ofNat n)
  else if n < 0xC2 then .illFormed
  else if n < 0xE0 then .start ⟨0, 0x80, 0xBF, n - 0xC0⟩
  else if n = 0xE0 then .start ⟨1, 0xA0, 0xBF, 0⟩
  else if n = 0xED then .start ⟨1, 0x80, 0x9F, 13⟩
  else if n < 0xF0 then .start ⟨1, 0x80, 0xBF, n - 0xE0⟩
  else if n = 0xF0 then .start ⟨2, 0x90, 0xBF, 0⟩
  else if n < 0xF4 then .start ⟨2, 0x80, 0xBF, n - 0xF0⟩
  else if n = 0xF4 then .start ⟨2, 0x80, 0x8F, 4⟩
  else .illFormed

/-- The characters of a byte sequence, with `none` for each ill-formed piece. -/
def scan : Option Partial → List UInt8 → List (Option Char)
  | none, [] => []
  | some _, [] => [none]
  | none, b :: rest =>
    match lead b with
    | .character c => some c :: scan none rest
    | .start p => scan (some p) rest
    | .illFormed => none :: scan none rest
  | some p, b :: rest =>
    if p.low ≤ b ∧ b ≤ p.high then
      let bits := p.bits * 64 + (b.toNat - 0x80)
      match p.owed with
      | 0 => some (Char.ofNat bits) :: scan none rest
      | owed + 1 => scan (some ⟨owed, 0x80, 0xBF, bits⟩) rest
    else
      none :: match lead b with
        | .character c => some c :: scan none rest
        | .start q => scan (some q) rest
        | .illFormed => none :: scan none rest

def decode? (bytes : List UInt8) : Option (List Char) :=
  (scan none bytes).mapM id

/-- The text of a byte sequence, with U+FFFD in the place of each ill-formed piece. -/
def repair (bytes : List UInt8) : List Char :=
  (scan none bytes).map (·.getD '\uFFFD')

def encode (cs : List Char) : List UInt8 :=
  cs.flatMap String.utf8EncodeChar

end DetectorDashboard.Text.Utf8
