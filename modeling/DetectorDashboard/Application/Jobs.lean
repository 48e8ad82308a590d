import DetectorDashboard.Application.Basic

/-!
Jobs: requests, navigations and commands. All calls of a job are made when it starts; it is
finished by the last of their answers. An answer to a poll changes the dashboard and finishes no
job, and an answer to an abandoned call changes nothing.
-/

namespace DetectorDashboard

namespace Goal

/-- The outcome of a job after its last answer, with so many failures among all of them. -/
def outcome (answer : Except Failure Bool) (failures : Nat) : Goal → Outcome
  | .request => .requested answer
  | .refresh => .refreshed (answer matches .ok true)
  | .navigation transition => .navigated transition
  | .command => .settled failures
  | .redirect => .responded .backToPage
  | .stream => .responded .eventStream

end Goal

namespace Application

def finish (a : Application) (job : Nat) (outcome : Outcome) : Application :=
  { a with finished := a.finished.push (job, outcome) }

/-- Starts a job that is owed some answers; a job that is owed none is finished at once. -/
def startJob (a : Application) (goal : Goal) (owed : Nat) : Application :=
  let started := { a with nextJob := a.nextJob + 1 }
  if owed = 0 then started.finish a.nextJob (goal.outcome (.ok true) 0)
  else { started with jobs := a.jobs ++ [⟨a.nextJob, goal, owed, 0⟩] }

/-- A job that is finished as soon as it has started. -/
def complete (a : Application) (outcome : Outcome) : Application :=
  { a with nextJob := a.nextJob + 1 }.finish a.nextJob outcome

/-- Asks an endpoint for its status once. -/
def request (a : Application) (endpoint : Endpoint) (goal : Goal) : Application :=
  (a.startJob goal 1).sendStatus endpoint (.status endpoint · a.nextJob)

/-- The endpoints asked whenever the home panel is entered. -/
def summary : List Endpoint :=
  [.apiVersion, .adapters]

/-- Shows the panel that a fragment leads to. -/
def enter (a : Application) (fragment : String) : Transition × Application :=
  let dashboard := a.dashboard.navigate fragment
  let view := dashboard.view
  ( ⟨a.dashboard.view.panel, view.panel⟩,
    { a with dashboard := dashboard }.publish (.navigated view.panel view.title) )

/-- Shows a panel and, on entering the home panel, asks for the summary of the server. -/
def navigate (a : Application) (fragment : String) (goal : Transition → Goal) : Application :=
  let job := a.nextJob
  let (transition, entered) := a.enter fragment
  let endpoints := if transition.after.refreshesSummary then summary else []
  endpoints.foldl (fun a e => a.sendStatus e (.status e · job))
    (entered.startJob (goal transition) endpoints.length)

/-- Sends all writes of a command. -/
def dispatch (a : Application) (command : Command) (goal : Goal) : Application :=
  let job := a.nextJob
  let requests := command.requests a.dashboard.paths
  requests.foldl (fun a r => a.send ⟨.put, r.path, r.body⟩ (.write job))
    (a.startJob goal requests.length)

/-- An input that could not be read raises an alert instead. -/
def refuse (a : Application) (error : ValidationError) : Application :=
  a.alert (Failure.validation error).alert

/-- Notes an answer to a call of a job. -/
def settle (a : Application) (job : Nat) (answer : Except Failure Bool) : Application :=
  match a.jobs.find? (·.id = job) with
  | none => a
  | some j =>
    let failures := j.failures + if answer matches .error _ then 1 else 0
    if j.owed ≤ 1 then
      { a with jobs := a.jobs.filter (·.id ≠ job) }.finish job (j.goal.outcome answer failures)
    else
      let noted := { j with owed := j.owed - 1, failures := failures }
      { a with jobs := a.jobs.map fun k => if k.id = job then noted else k }

/-- Shows the response to request `seq`, unless a newer one has been shown. -/
def apply (a : Application) (now : Timestamp) (seq : Nat) (response : StatusResponse) :
    Bool × Application :=
  match a.dashboard.accept? now seq response with
  | none => (false, a)
  | some dashboard =>
    (true, { a with dashboard := dashboard }.publish (.rendered response.endpoint seq))

/-- Shows the answer to a status request, if it is one that can be shown. -/
def receive (a : Application) (now : Timestamp) (endpoint : Endpoint) (seq : Nat) (reply : Reply) :
    Except Failure Bool × Application :=
  match reply with
  | .error e => (.error e, a)
  | .ok body =>
    match StatusResponse.decode endpoint body with
    | .error e => (.error (.schema e), a)
    | .ok response =>
      let (applied, a) := a.apply now seq response
      (.ok applied, a)

/-- The answer to a write; a failure raises an alert. -/
def acknowledge (a : Application) (reply : Reply) : Except Failure Bool × Application :=
  match reply with
  | .error e => (.error e, a.alert e.alert)
  | .ok _ => (.ok true, a)

/-- What an answer does, according to the purpose of its call. -/
def answer (a : Application) (now : Timestamp) (reply : Reply) : Purpose → Application
  | .poll endpoint seq => (a.receive now endpoint seq reply).2
  | .status endpoint seq job =>
    let (result, a) := a.receive now endpoint seq reply
    a.settle job result
  | .write job =>
    let (result, a) := a.acknowledge reply
    a.settle job result
  | .abandoned => a

/-- Delivers the answer to a pending call. -/
def deliver (a : Application) (now : Timestamp) (id : Nat) (reply : Reply) : Application :=
  match a.pending.find? (·.id = id) with
  | none => a
  | some p => { a with pending := a.pending.filter (·.id ≠ id) }.answer now reply p.purpose

end Application

end DetectorDashboard
