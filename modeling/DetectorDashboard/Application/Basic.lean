import DetectorDashboard.AlertQueue
import DetectorDashboard.Dashboard
import DetectorDashboard.Failure
import DetectorDashboard.Http.Message
import DetectorDashboard.Poller
import DetectorDashboard.UpdateBus

/-!
The running application: the dashboard with its alerts and its updates, the calls to the control
server that have not been answered, the jobs that wait for answers, and the poller. Everything that
happens to it is a transition of this state; the order in which answers arrive is left to whoever
delivers them. No other task runs within a transition: a change of the dashboard and the update that
announces it are one step, and so are an alert's way into the queue and its announcement.

Left out are the process around the application, which opens the port and waits for a signal to end,
the lines of its log, and browsers that hang up before they are answered.
-/

namespace DetectorDashboard

inductive CallMethod
  | get
  | put
deriving DecidableEq

/-- A call to the control server. -/
structure Call where
  method : CallMethod
  path : String
  body : Option Json

/-- The answer to a call. -/
abbrev Reply := Except Failure Json

/-- Why a call was made, and so what its answer is for. -/
inductive Purpose
  | poll (endpoint : Endpoint) (seq : Nat)
  | status (endpoint : Endpoint) (seq : Nat) (job : Nat)
  | write (job : Nat)
  /-- Whoever made the call is gone. -/
  | abandoned
deriving DecidableEq

/-- A call without an answer. Calls are numbered in the order in which they are made. -/
structure PendingCall where
  id : Nat
  call : Call
  purpose : Purpose

/-- The call when whoever made it is gone. -/
def PendingCall.abandoned (p : PendingCall) : PendingCall :=
  { p with purpose := .abandoned }

/-- What a job is there for. -/
inductive Goal
  | request
  | refresh
  | navigation (transition : Transition)
  | command
  /-- To answer a request over HTTP by sending the browser back to the page. -/
  | redirect
  /-- To answer a request over HTTP with a stream that has no end. -/
  | stream
deriving DecidableEq

/-- A job that waits for answers. -/
structure Job where
  id : Nat
  goal : Goal
  /-- How many answers are still to come. -/
  owed : Nat
  failures : Nat := 0
deriving DecidableEq

inductive Outcome
  | requested (result : Except Failure Bool)
  | refreshed (applied : Bool)
  | navigated (transition : Transition)
  | settled (failures : Nat)
  | responded (response : Http.Response)

structure Application where
  dashboard : Dashboard
  alerts : AlertQueue
  bus : UpdateBus
  poller : Poller
  /-- After how many seconds the page loads itself again. -/
  refreshSeconds : Nat
  /-- In milliseconds. -/
  clock : Nat := 0
  /-- All calls ever made. -/
  calls : Array Call := #[]
  pending : List PendingCall := []
  jobs : List Job := []
  nextJob : Nat := 0
  /-- All jobs ever finished, with their outcome. -/
  finished : Array (Nat × Outcome) := #[]

/-- The capacities and periods of an application. The poller's are in milliseconds, that of the page
is in seconds. -/
structure Sizes where
  alerts : Nat := 32
  bus : Nat := 256
  detectorPeriod : Nat := 100
  unitsPeriod : Nat := 500
  refreshSeconds : Nat := 2

namespace Application

def ofSettings (settings : Settings) (sizes : Sizes) : Application where
  dashboard := .ofSettings settings
  alerts := .ofCapacity sizes.alerts
  bus := .ofCapacity sizes.bus
  poller := .ofPeriods sizes.detectorPeriod sizes.unitsPeriod
  refreshSeconds := sizes.refreshSeconds

def publish (a : Application) (u : Update) : Application :=
  { a with bus := a.bus.publish u }

/-- An alert is queued for the next page and announced at once. -/
def alert (a : Application) (message : String) : Application :=
  { a with alerts := a.alerts.raise message }.publish (.alert message)

def drainAlerts (a : Application) : List String × Application :=
  let (messages, alerts) := a.alerts.drain
  (messages, { a with alerts := alerts })

/-- Makes a call to the control server. -/
def send (a : Application) (call : Call) (purpose : Purpose) : Application :=
  { a with
    calls := a.calls.push call
    pending := a.pending ++ [⟨a.calls.size, call, purpose⟩] }

/-- Asks an endpoint for its status, under a number of its own. -/
def sendStatus (a : Application) (endpoint : Endpoint) (purpose : Nat → Purpose) : Application :=
  let (seq, dashboard) := a.dashboard.issue endpoint
  { a with dashboard := dashboard }.send ⟨.get, endpoint.path dashboard.paths, none⟩ (purpose seq)

end Application

end DetectorDashboard
