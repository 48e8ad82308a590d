/-!
Requests to one endpoint may be answered out of order. Each is given a number when it is sent, and
an answer is let through only if it is newer than every answer let through before it.
-/

namespace DetectorDashboard

structure SequenceGate where
  next : Nat := 0
  lastApplied : Option Nat := none
deriving DecidableEq

namespace SequenceGate

/-- The number of a new request. -/
def issue (g : SequenceGate) : Nat × SequenceGate :=
  (g.next, { g with next := g.next + 1 })

def isNewer (g : SequenceGate) (seq : Nat) : Bool :=
  g.lastApplied.all (· < seq)

/-- The gate once the answer to request `seq` is through, unless that answer is stale. -/
def accept? (g : SequenceGate) (seq : Nat) : Option SequenceGate :=
  if g.isNewer seq then some { g with lastApplied := some seq } else none

end SequenceGate

end DetectorDashboard
