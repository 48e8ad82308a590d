import DetectorDashboard.Application.Basic

/-!
The poller at work. Every timer is a task that owns the polls it has sent. Ticks do not wait for
answers; a timer that is stopped takes its polls with it, which are then abandoned. Of the runtime
it is assumed that a task that is aborted is dropped before it runs again, and that a set of tasks
that is dropped aborts all of them.
-/

namespace DetectorDashboard.Application

/-- Runs the timers that are due. -/
def tick (a : Application) : Application :=
  let (endpoints, poller) := a.poller.fire a.clock
  endpoints.foldl (fun a e => a.sendStatus e (.poll e)) { a with poller := poller }

/-- The first ticks come at once: no other task runs between a start and the first polls. -/
def startPolling (a : Application) : Application :=
  { a with poller := a.poller.start a.clock }.tick

/-- The call after the tasks of some timers are aborted, to one of which it may belong. -/
def abandonPoll (timers : List PollTimer) (p : PendingCall) : PendingCall :=
  match p.purpose with
  | .poll endpoint _ => if timers.any (·.endpoint = endpoint) then p.abandoned else p
  | _ => p

/-- Aborts the tasks of all timers. The same happens to a poller that is dropped. -/
def stopPolling (a : Application) : Application :=
  { a with
    poller := a.poller.stop
    pending := a.pending.map (abandonPoll a.poller.timers) }

/-- The clock moves on at once, and the timers run afterwards. -/
def stall (a : Application) (time : Nat) : Application :=
  { a with clock := a.clock + time }.tick

/-- The clock moves on, and every timer runs when it is due. -/
def sleep (a : Application) : Nat → Application
  | 0 => a
  | time + 1 => (a.stall 1).sleep time

end DetectorDashboard.Application
