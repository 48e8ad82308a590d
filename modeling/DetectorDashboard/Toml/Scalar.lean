import DetectorDashboard.Decimal.Spelling
import DetectorDashboard.Toml.Node

/-!
Values that are written as a single word: booleans, numbers, dates and times. Underscores may stand
between the digits of a number; integers are words of 64 bits with a sign.
-/

namespace DetectorDashboard.Toml.Node

/-- The characters without the underscores, each of which has to stand between two digits. -/
def withoutUnderscores? (isDigit : Char → Bool) : List Char → Option (List Char)
  | [] => some []
  | [c] => if c = '_' then none else some [c]
  | c :: '_' :: d :: rest =>
    if isDigit c && isDigit d then (withoutUnderscores? isDigit (d :: rest)).map (c :: ·) else none
  | c :: rest => if c = '_' then none else (withoutUnderscores? isDigit rest).map (c :: ·)

def signed64? (n : Int) : Option Node :=
  if Int64.minValue.toInt ≤ n ∧ n ≤ Int64.maxValue.toInt then some (.integer n) else none

/-- A number in a base that its first two characters name. -/
def based? (base : Nat) (isDigit : Char → Bool) (digits : List Char) : Option Node := do
  let digits ← withoutUnderscores? isDigit digits
  let values ← digits.mapM Text.hexValue?
  if digits ≠ [] ∧ digits.all isDigit then
    signed64? (values.foldl (fun n d => n * base + d) 0 : Nat)
  else none

/-- No zero stands before another digit, and every part that is present has digits. -/
def isDecimal (s : Spelling) : Bool :=
  s.whole ≠ [] && (s.whole = ['0'] || s.whole.head? ≠ some '0') && s.fraction ≠ some []

/-- A number too large for a floating-point number is refused, unless it is negative. -/
def decimal? (cs : List Char) : Option Node := do
  let s ← (Spelling.read? (← withoutUnderscores? Char.isDigit cs)).filter isDecimal
  if s.isWhole then
    let n := Nat.ofDigitChars 10 s.whole 0
    signed64? (if s.negative then -n else n)
  else
    let x := s.binary64
    if x = .infinite false then none else some (.float x)

/-- Infinity, or what is not a number. -/
def special? (cs : List Char) : Option Node :=
  let (sign, word) := Spelling.readSign cs
  if word = "inf".toList then some (.float (.infinite (sign == some '-')))
  else if word = "nan".toList then some (.float .nan)
  else none

def isHexDigit (c : Char) : Bool :=
  (Text.hexValue? c).isSome

def isOctalDigit (c : Char) : Bool :=
  '0' ≤ c && c ≤ '7'

def isBinaryDigit (c : Char) : Bool :=
  c = '0' || c = '1'

def number? : List Char → Option Node
  | '0' :: 'x' :: digits => based? 16 isHexDigit digits
  | '0' :: 'o' :: digits => based? 8 isOctalDigit digits
  | '0' :: 'b' :: digits => based? 2 isBinaryDigit digits
  | cs => (decimal? cs).or (special? cs)

/-- The value that a word spells. -/
def ofWord? (cs : List Char) : Option Node :=
  if cs = "true".toList then some (.boolean true)
  else if cs = "false".toList then some (.boolean false)
  else ((Datetime.read? cs).map .datetime).or (number? cs)

end DetectorDashboard.Toml.Node
