import DetectorDashboard.Text.Digits

/-!
Dates and times of day: a date, a time, or both with or without an offset from universal time.
-/

namespace DetectorDashboard.Toml

structure CalendarDate where
  year : Nat
  month : Nat
  day : Nat
deriving DecidableEq

/-- The fraction of a second is given by its digits. -/
structure ClockTime where
  hour : Nat
  minute : Nat
  second : Nat
  fraction : List Char
deriving DecidableEq

structure Datetime where
  date : Option CalendarDate
  time : Option ClockTime
  /-- In minutes. -/
  offset : Option Int
deriving DecidableEq

namespace Datetime

def isLeap (year : Nat) : Bool :=
  year % 4 = 0 && (year % 100 ≠ 0 || year % 400 = 0)

def daysIn (year month : Nat) : Nat :=
  if month = 2 then if isLeap year then 29 else 28
  else if month ∈ [4, 6, 9, 11] then 30
  else 31

/-- The number that exactly `count` digits spell, and what follows them. -/
def fixed? (count : Nat) (cs : List Char) : Option (Nat × List Char) :=
  let digits := cs.take count
  if digits.length = count then
    (Text.readDigits? digits).map fun n => (n, cs.drop count)
  else none

def skip? (c : Char) : List Char → Option (List Char)
  | [] => none
  | d :: rest => if d = c then some rest else none

def date? (cs : List Char) : Option (CalendarDate × List Char) := do
  let (year, cs) ← fixed? 4 cs
  let (month, cs) ← fixed? 2 (← skip? '-' cs)
  let (day, cs) ← fixed? 2 (← skip? '-' cs)
  if 1 ≤ month ∧ month ≤ 12 ∧ 1 ≤ day ∧ day ≤ daysIn year month then
    some (⟨year, month, day⟩, cs)
  else none

def fraction? : List Char → Option (List Char × List Char)
  | '.' :: cs =>
    let digits := cs.takeWhile Char.isDigit
    if digits = [] then none else some (digits, cs.dropWhile Char.isDigit)
  | cs => some ([], cs)

def time? (cs : List Char) : Option (ClockTime × List Char) := do
  let (hour, cs) ← fixed? 2 cs
  let (minute, cs) ← fixed? 2 (← skip? ':' cs)
  let (second, cs) ← fixed? 2 (← skip? ':' cs)
  let (fraction, cs) ← fraction? cs
  if hour ≤ 23 ∧ minute ≤ 59 ∧ second ≤ 60 then some (⟨hour, minute, second, fraction⟩, cs)
  else none

/-- The offset that ends a text. -/
def offset? : List Char → Option (Option Int)
  | [] => some none
  | ['Z'] => some (some 0)
  | ['z'] => some (some 0)
  | sign :: cs => do
    let (hour, cs) ← fixed? 2 cs
    let (minute, cs) ← fixed? 2 (← skip? ':' cs)
    let total : Int := hour * 60 + minute
    if hour ≤ 23 ∧ minute ≤ 59 ∧ cs = [] then
      if sign = '+' then some (some total) else if sign = '-' then some (some (-total)) else none
    else none

/-- A date, alone or followed by a time after `T` or a space. -/
def dated? (cs : List Char) : Option Datetime := do
  let (date, cs) ← date? cs
  match cs with
  | [] => some ⟨some date, none, none⟩
  | separator :: cs =>
    let (time, cs) ← time? cs
    let offset ← offset? cs
    if separator = 'T' ∨ separator = 't' ∨ separator = ' ' then
      some ⟨some date, some time, offset⟩
    else none

def timed? (cs : List Char) : Option Datetime := do
  let (time, cs) ← time? cs
  if cs = [] then some ⟨none, some time, none⟩ else none

/-- The date or time that a text is from end to end. -/
def read? (cs : List Char) : Option Datetime :=
  (dated? cs).or (timed? cs)

end Datetime

end DetectorDashboard.Toml
