import DetectorDashboard.Text.Digits

/-!
Instants of coordinated universal time: the clock shown on the page and the full text used in
JSON. In a leap second the fraction runs on past one second, and the clock shows second 60.
-/

namespace DetectorDashboard

/-- Seconds since the start of 1970, and nanoseconds, from `10 ^ 9` on in a leap second. -/
structure Timestamp where
  seconds : Int
  nanoseconds : Nat
deriving DecidableEq

/-- A day of the Gregorian calendar, carried on before its introduction. -/
structure Date where
  year : Int
  month : Nat
  day : Nat
deriving DecidableEq

namespace Date

/-- The day `n` days after 1 January 1970. Years are counted from March, so that the leap day ends
one, in eras of 400 years. -/
def ofDays (n : Int) : Date :=
  let shifted := n + 719468
  let era := shifted.fdiv 146097
  let dayOfEra := (shifted.fmod 146097).toNat
  let yearOfEra := (dayOfEra - dayOfEra / 1460 + dayOfEra / 36524 - dayOfEra / 146096) / 365
  let dayOfYear := dayOfEra - (365 * yearOfEra + yearOfEra / 4 - yearOfEra / 100)
  let monthOfYear := (5 * dayOfYear + 2) / 153
  let month := if monthOfYear < 10 then monthOfYear + 3 else monthOfYear - 9
  { year := yearOfEra + era * 400 + if month ≤ 2 then 1 else 0
    month := month
    day := dayOfYear - (153 * monthOfYear + 2) / 5 + 1 }

/-- A year beyond four digits, or before year 0, has a sign. -/
def yearText (year : Int) : String :=
  let digits := Text.padded 4 year.natAbs
  if year < 0 then "-" ++ digits else if 9999 < year then "+" ++ digits else digits

def text (d : Date) : String :=
  s!"{yearText d.year}-{Text.padded 2 d.month}-{Text.padded 2 d.day}"

end Date

namespace Timestamp

def date (t : Timestamp) : Date :=
  .ofDays (t.seconds.fdiv 86400)

def secondOfDay (t : Timestamp) : Nat :=
  (t.seconds.fmod 86400).toNat

/-- Hours, minutes and seconds. -/
def clock (t : Timestamp) : String :=
  let n := t.secondOfDay
  let second := n % 60 + if 1000000000 ≤ t.nanoseconds then 1 else 0
  s!"{Text.padded 2 (n / 3600)}:{Text.padded 2 (n / 60 % 60)}:{Text.padded 2 second}"

/-- The fraction of a second in thousandths, millionths or billionths, the coarsest that is
exact. -/
def fraction (t : Timestamp) : String :=
  let n := t.nanoseconds % 1000000000
  if n = 0 then ""
  else if n % 1000000 = 0 then "." ++ Text.padded 3 (n / 1000000)
  else if n % 1000 = 0 then "." ++ Text.padded 6 (n / 1000)
  else "." ++ Text.padded 9 n

def text (t : Timestamp) : String :=
  s!"{t.date.text}T{t.clock}{t.fraction}Z"

end Timestamp

end DetectorDashboard
