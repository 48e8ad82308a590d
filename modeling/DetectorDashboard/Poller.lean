import DetectorDashboard.Endpoint

/-!
The timers that poll the status endpoints, on a clock that counts milliseconds. A timer is due at
its deadlines, the first of which is the moment it is started. A timer that is late by more than a
few milliseconds skips the deadlines it has missed; the next one is the next multiple of its period.
-/

namespace DetectorDashboard

/-- A period in milliseconds. -/
structure PollSchedule where
  endpoint : Endpoint
  period : Nat
deriving DecidableEq

structure PollTimer where
  endpoint : Endpoint
  period : Nat
  period_pos : 0 < period
  deadline : Nat

/-- The timers stand in the order in which they were set. -/
structure Poller where
  schedules : List PollSchedule
  timers : List PollTimer := []

namespace PollTimer

/-- How late a timer may be without skipping a deadline. -/
def tolerance : Nat := 5

def nextDeadline (t : PollTimer) (now : Nat) : Nat :=
  if t.deadline + tolerance < now then now + t.period - (now - t.deadline) % t.period
  else t.deadline + t.period

theorem deadline_lt_nextDeadline (t : PollTimer) (now : Nat) :
    t.deadline < t.nextDeadline now := by
  have := t.period_pos
  have := Nat.mod_lt (now - t.deadline) t.period_pos
  unfold nextDeadline
  split <;> omega

def rearm (t : PollTimer) (now : Nat) : PollTimer :=
  { t with deadline := t.nextDeadline now }

/-- How often a timer is due by now, and the timer set to its next deadline after now. -/
def fire (now : Nat) (t : PollTimer) : Nat × PollTimer :=
  if t.deadline ≤ now then
    let (n, t) := fire now (t.rearm now)
    (n + 1, t)
  else (0, t)
termination_by now + 1 - t.deadline
decreasing_by
  have := t.deadline_lt_nextDeadline now
  simp only [rearm]
  omega

end PollTimer

namespace Poller

/-- The periods of the detector's own endpoints and of the unit lists. -/
def ofPeriods (detector units : Nat) : Poller where
  schedules :=
    [ ⟨.detectorConfig, detector⟩,
      ⟨.detectorStatus, detector⟩,
      ⟨.receivers, units⟩,
      ⟨.processors, units⟩ ]

def isRunning (p : Poller) : Bool :=
  p.timers ≠ []

def timer? (now : Nat) (s : PollSchedule) : Option PollTimer :=
  if h : 0 < s.period then some ⟨s.endpoint, s.period, h, now⟩ else none

/-- Sets a timer for each schedule, unless the poller is running. -/
def start (p : Poller) (now : Nat) : Poller :=
  if p.isRunning then p else { p with timers := p.schedules.filterMap (timer? now) }

def stop (p : Poller) : Poller :=
  { p with timers := [] }

/-- The timers due by now, the earliest first. -/
def due (p : Poller) (now : Nat) : List PollTimer :=
  (p.timers.filter fun t => t.deadline ≤ now).mergeSort fun t u => t.deadline ≤ u.deadline

/-- The endpoints to be polled now, and the timers set anew. -/
def fire (p : Poller) (now : Nat) : List Endpoint × Poller :=
  let fired := (p.due now).map fun t => (t.endpoint, t.fire now)
  let waiting := p.timers.filter fun t => now < t.deadline
  ( fired.flatMap fun f => List.replicate f.2.1 f.1,
    { p with timers := waiting ++ fired.map (·.2.2) } )

end Poller

end DetectorDashboard
