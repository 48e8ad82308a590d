import DetectorDashboard.Decimal.Basic

/-!
The shortest decimal number that reads back as a given magnitude, and among those of that length
the one nearest to it. For 1, 2, up to 17 digits the two neighbours on that decimal grid are
tried, the nearer first; the first that reads back is the answer.
-/

namespace DetectorDashboard.Decimal

/-- Which of two decimal numbers at the same distance is taken. -/
inductive Tie
  | even
  | up
deriving DecidableEq

/-- The neighbours of `coefficient / unit` among the whole numbers, the nearer first. -/
def neighbours (tie : Tie) (coefficient unit : Nat) : List Nat :=
  let low := coefficient / unit
  let rest := coefficient % unit
  let lowFirst := 2 * rest < unit ∨ (2 * rest = unit ∧ tie = .even ∧ low % 2 = 0)
  if lowFirst then [low, low + 1] else [low + 1, low]

/-- The decimal numbers of `count` digits next to one of `length` digits, the nearer first. -/
def shortened (tie : Tie) (d : Decimal) (length count : Nat) : List Decimal :=
  let dropped := length - count
  (neighbours tie d.coefficient (Nat.pow 10 dropped)).map fun c => ⟨c, d.exponent + dropped⟩

def shortest (tie : Tie) (m : Binary64.Magnitude) : Decimal :=
  let exact := ofMagnitude m
  let length := (Text.digits exact.coefficient).length
  let readsBack (d : Decimal) : Bool := d.magnitude? = some m
  ((List.range 17).findSome? fun n => (shortened tie exact length (n + 1)).find? readsBack).getD
    exact

theorem shortest_eq_or_readsBack (tie : Tie) (m : Binary64.Magnitude) :
    shortest tie m = ofMagnitude m ∨ (shortest tie m).magnitude? = some m := by
  unfold shortest
  dsimp only
  cases found : (List.range 17).findSome? _ with
  | none => exact .inl rfl
  | some d =>
    obtain ⟨n, _, hn⟩ := List.exists_of_findSome?_eq_some found
    exact .inr (by simpa using List.find?_some hn)

end DetectorDashboard.Decimal
