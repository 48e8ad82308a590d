/-!
Alerts that no page has shown yet. When the queue is full, the oldest alert makes way.
-/

namespace DetectorDashboard

structure AlertQueue where
  capacity : Nat
  pending : List String := []
  capacity_pos : 0 < capacity
  length_le : pending.length ≤ capacity

namespace AlertQueue

/-- An empty queue; it has room for one alert even where none is asked for. -/
def ofCapacity (n : Nat) : AlertQueue where
  capacity := max n 1
  capacity_pos := by omega
  length_le := Nat.zero_le _

def raise (q : AlertQueue) (message : String) : AlertQueue :=
  { q with
    pending := (if q.pending.length = q.capacity then q.pending.drop 1 else q.pending) ++ [message]
    length_le := by
      have := q.capacity_pos
      have := q.length_le
      split <;> simp <;> omega }

/-- The alerts, the oldest first, and the queue without them. -/
def drain (q : AlertQueue) : List String × AlertQueue :=
  (q.pending, { q with pending := [], length_le := Nat.zero_le _ })

end AlertQueue

end DetectorDashboard
