import DetectorDashboard.UpdateBus

/-!
Updates as events of a stream: a line with the name, a line with the data, and an empty line. The
data is a JSON text without line breaks, so that no update ends its event early. A stream that has
been silent for long says that it is still alive, with a comment that is no event.
-/

namespace DetectorDashboard.Http

/-- The event that announces an update. -/
def eventFrame (u : Update) : String :=
  s!"event: {u.name}\ndata: {u.json.text}\n\n"

def commentFrame : String :=
  ":\n\n"

structure EventStream where
  subscription : Subscription
  /-- When the next comment is due, in milliseconds, unless an event comes before it. -/
  commentDue : Nat
deriving DecidableEq

namespace EventStream

/-- How long a stream may be silent, in milliseconds. -/
def silence : Nat := 15000

def ofBus (bus : UpdateBus) (now : Nat) : EventStream :=
  ⟨bus.subscribe, now + silence⟩

/-- The frames for a reader who comes back now. -/
def read (s : EventStream) (bus : UpdateBus) (now : Nat) : List String × EventStream :=
  let (delivery, subscription) := bus.receive s.subscription
  if delivery.updates ≠ [] then
    (delivery.updates.map eventFrame, ⟨subscription, now + silence⟩)
  else if s.commentDue ≤ now then ([commentFrame], ⟨subscription, now + silence⟩)
  else ([], { s with subscription := subscription })

end EventStream

end DetectorDashboard.Http
