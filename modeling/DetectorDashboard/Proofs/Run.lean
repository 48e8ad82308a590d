import DetectorDashboard.Application.Polling
import DetectorDashboard.Application.Web

/-! Runs of the application. An event is one thing that happens to it from outside; a run is a list
of events in the order in which they happen, so that a statement about all runs is one about all
interleavings of requests, navigations, commands, ticks and answers. -/

namespace DetectorDashboard

inductive Event where
  | request (endpoint : Endpoint) (goal : Goal)
  | navigate (fragment : String) (goal : Transition → Goal)
  | command (command : Command) (goal : Goal)
  /-- An input that is not a command. -/
  | refuse (error : ValidationError)
  /-- A request over HTTP. -/
  | serve (request : Http.Request)
  | startPolling
  /-- The poller is stopped, or dropped. -/
  | stopPolling
  /-- The clock moves on, and the timers that are due run afterwards. -/
  | stall (time : Nat)
  /-- The control server answers the call of a number, if that still waits for an answer. -/
  | deliver (now : Timestamp) (id : Nat) (reply : Reply)

namespace Application

def step (a : Application) : Event → Application
  | .request endpoint goal => a.request endpoint goal
  | .navigate fragment goal => a.navigate fragment goal
  | .command command goal => a.dispatch command goal
  | .refuse error => a.refuse error
  | .serve request => a.serve request
  | .startPolling => a.startPolling
  | .stopPolling => a.stopPolling
  | .stall time => a.stall time
  | .deliver now id reply => a.deliver now id reply

def run (a : Application) (events : List Event) : Application :=
  events.foldl step a

/-- An invariant holds at the end of a run if every event of the run keeps it. -/
theorem run_induction {P : Application → Prop} (events : List Event) {a : Application}
    (hstep : ∀ event ∈ events, ∀ a, P a → P (a.step event)) (ha : P a) : P (a.run events) := by
  induction events generalizing a with
  | nil => exact ha
  | cons event rest ih =>
      exact ih (fun e he => hstep e (List.mem_cons_of_mem _ he))
        (hstep event List.mem_cons_self a ha)

/-- What is seen in a run, where `see` says what is seen as an event happens to an application. -/
def along {α : Type} (see : Application → Event → List α) (a : Application) : List Event → List α
  | [] => []
  | event :: rest => see a event ++ along see (a.step event) rest

theorem run_append (a : Application) (before after : List Event) :
    a.run (before ++ after) = (a.run before).run after :=
  List.foldl_append ..

/-- What is seen in a run goes on with what is seen after its first part. -/
theorem along_append {α : Type} (see : Application → Event → List α) (a : Application)
    (before after : List Event) :
    along see a (before ++ after) = along see a before ++ along see (a.run before) after := by
  induction before generalizing a with
  | nil => rfl
  | cons event rest ih =>
      rw [List.cons_append, along, along, ih, List.append_assoc]
      rfl

theorem along_filterMap {α β : Type} (see : Application → Event → List α) (f : α → Option β)
    (a : Application) (events : List Event) :
    (along see a events).filterMap f = along (fun a e => (see a e).filterMap f) a events := by
  induction events generalizing a with
  | nil => rfl
  | cons event rest ih => rw [along, along, List.filterMap_append, ih]

theorem exists_of_mem_along {α : Type} {see : Application → Event → List α} {x : α}
    {a : Application} {events : List Event} (h : x ∈ along see a events) :
    ∃ event ∈ events, ∃ b, x ∈ see b event := by
  induction events generalizing a with
  | nil => cases h
  | cons event rest ih =>
      rcases List.mem_append.mp h with h | h
      · exact ⟨event, List.mem_cons_self, a, h⟩
      · obtain ⟨e, he, hb⟩ := ih h
        exact ⟨e, List.mem_cons_of_mem _ he, hb⟩

/-- An invariant that relates the application to what has been seen so far holds at the end of a run
if every event of the run keeps it. -/
theorem along_induction {α : Type} {see : Application → Event → List α}
    {P : Application → List α → Prop} (events : List Event) (a : Application) (seen : List α)
    (hstep : ∀ event ∈ events, ∀ a seen, P a seen → P (a.step event) (seen ++ see a event))
    (ha : P a seen) : P (a.run events) (seen ++ along see a events) := by
  induction events generalizing a seen with
  | nil => simpa [run, along] using ha
  | cons event rest ih =>
      have hnext := hstep event List.mem_cons_self a seen ha
      have hrest := ih (a.step event) (seen ++ see a event)
        (fun e he => hstep e (List.mem_cons_of_mem _ he)) hnext
      simpa only [run, along, List.foldl_cons, List.append_assoc] using hrest

end Application

end DetectorDashboard
