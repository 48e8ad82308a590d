import DetectorDashboard.Update

/-!
The announcement of updates. The bus is the history of all that was published; a subscription is a
place in it. Only the newest updates are kept, so that a slow subscriber loses the oldest that it
has not read.
-/

namespace DetectorDashboard

structure UpdateBus where
  /-- How many updates are kept. -/
  capacity : Nat
  published : Array Update := #[]

/-- How many updates have been read or missed. -/
structure Subscription where
  position : Nat
deriving DecidableEq

/-- What a subscriber finds: how many updates it lost, and those it can still read. -/
structure Delivery where
  lost : Nat
  updates : List Update

namespace UpdateBus

/-- A bus that keeps as many updates as asked for, rounded up to a power of two. -/
def ofCapacity (n : Nat) : UpdateBus where
  capacity := n.nextPowerOfTwo

def publish (b : UpdateBus) (u : Update) : UpdateBus :=
  { b with published := b.published.push u }

/-- Updates published from now on. -/
def subscribe (b : UpdateBus) : Subscription :=
  ⟨b.published.size⟩

/-- The place of the oldest update that is still kept. -/
def oldest (b : UpdateBus) : Nat :=
  b.published.size - b.capacity

def receive (b : UpdateBus) (s : Subscription) : Delivery × Subscription :=
  let start := max s.position b.oldest
  (⟨start - s.position, b.published.toList.drop start⟩, b.subscribe)

end UpdateBus

end DetectorDashboard
