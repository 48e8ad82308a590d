import DetectorDashboard.Proofs.Run

/-! What an event does beside the keeping of jobs, as a list of elementary effects. Everything that
an event does to the dashboard, to the alerts, to the updates and to the calls is one of nine
effects, so that an invariant of these is proved once for each effect and not once for each event.
Jobs are forgotten by `withoutJobs`; `withoutJobs_step` says that nothing else is. -/

namespace DetectorDashboard

inductive Effect where
  /-- A status request is sent, for a job or for the poller. -/
  | ask (endpoint : Endpoint) (job : Option Nat)
  | write (request : PutRequest) (job : Nat)
  | enter (fragment : String)
  | alert (message : String)
  | takeAlerts
  /-- A call has its answer. -/
  | close (id : Nat)
  | render (now : Timestamp) (seq : Nat) (response : StatusResponse)
  | abandonPolls
  | setTimers (poller : Poller) (clock : Nat)

namespace Effect

def isRender : Effect → Bool
  | .render .. => true
  | _ => false

end Effect

namespace Purpose

/-- The purpose of a status request. -/
def ask (endpoint : Endpoint) (seq : Nat) : Option Nat → Purpose
  | none => .poll endpoint seq
  | some job => .status endpoint seq job

/-- The endpoint and the number of a status request that someone waits for. -/
def request? : Purpose → Option (Endpoint × Nat)
  | .poll endpoint seq => some (endpoint, seq)
  | .status endpoint seq _ => some (endpoint, seq)
  | .write _ => none
  | .abandoned => none

@[simp] theorem request?_ask (endpoint : Endpoint) (seq : Nat) (job : Option Nat) :
    (ask endpoint seq job).request? = some (endpoint, seq) := by
  cases job <;> rfl

end Purpose

namespace Application

def enact (a : Application) : Effect → Application
  | .ask endpoint job => a.sendStatus endpoint (Purpose.ask endpoint · job)
  | .write request job => a.send ⟨.put, request.path, request.body⟩ (.write job)
  | .enter fragment => (a.enter fragment).2
  | .alert message => a.alert message
  | .takeAlerts => a.drainAlerts.2
  | .close id => { a with pending := a.pending.filter (·.id ≠ id) }
  | .render now seq response => (a.apply now seq response).2
  | .abandonPolls => { a with pending := a.pending.map (abandonPoll a.poller.timers) }
  | .setTimers poller clock => { a with poller := poller, clock := clock }

def enactAll (a : Application) (effects : List Effect) : Application :=
  effects.foldl enact a

@[simp] theorem enactAll_nil (a : Application) : a.enactAll [] = a := rfl

@[simp] theorem enactAll_cons (a : Application) (effect : Effect) (rest : List Effect) :
    a.enactAll (effect :: rest) = (a.enact effect).enactAll rest := rfl

theorem enactAll_induction {P : Application → Prop} (effects : List Effect) {a : Application}
    (hstep : ∀ effect ∈ effects, ∀ a, P a → P (a.enact effect)) (ha : P a) :
    P (a.enactAll effects) := by
  induction effects generalizing a with
  | nil => exact ha
  | cons effect rest ih =>
      rw [enactAll_cons]
      exact ih (fun e he => hstep e (List.mem_cons_of_mem _ he))
        (hstep effect List.mem_cons_self a ha)

/-! ### The effects of an event -/

def navigationEffects (a : Application) (fragment : String) : List Effect :=
  .enter fragment
    :: if resolve fragment = .home then summary.map (.ask · (some a.nextJob)) else []

def commandEffects (a : Application) (command : Command) : List Effect :=
  (command.requests a.dashboard.paths).map (.write · a.nextJob)

def refusalEffects (error : ValidationError) : List Effect :=
  [.alert (Failure.validation error).alert]

def handlerEffects (a : Application) : Http.Handler → List Effect
  | .health | .snapshot | .updates => []
  | .index => [.takeAlerts]
  | .navigate fragment => a.navigationEffects fragment
  | .submit (.ok command) => a.commandEffects command
  | .submit (.error error) => refusalEffects error

def tickEffects (poller : Poller) (clock : Nat) : List Effect :=
  .setTimers (poller.fire clock).2 clock :: (poller.fire clock).1.map (.ask · none)

/-- What the answer to a call does, according to the purpose of the call. -/
def answerEffects (now : Timestamp) : Reply → Purpose → List Effect
  | .error failure, .write _ => [.alert failure.alert]
  | .ok body, purpose =>
      match purpose.request? with
      | none => []
      | some (endpoint, seq) =>
          match StatusResponse.decode endpoint body with
          | .ok response => [.render now seq response]
          | .error _ => []
  | .error _, _ => []

def effects (a : Application) : Event → List Effect
  | .request endpoint _ => [.ask endpoint (some a.nextJob)]
  | .navigate fragment _ => a.navigationEffects fragment
  | .command command _ => a.commandEffects command
  | .refuse error => refusalEffects error
  | .serve request =>
      match Http.Handler.ofRequest request with
      | .ok handler => a.handlerEffects handler
      | .error _ => []
  | .startPolling => tickEffects (a.poller.start a.clock) a.clock
  | .stopPolling => [.abandonPolls, .setTimers a.poller.stop a.clock]
  | .stall time => tickEffects a.poller (a.clock + time)
  | .deliver now id reply =>
      match a.pending.find? (·.id = id) with
      | none => []
      | some p => .close id :: answerEffects now reply p.purpose

/-- An answer raises an alert or is rendered, if it does anything. -/
theorem forall_mem_answerEffects {P : Effect → Prop} {now : Timestamp} {reply : Reply}
    {purpose : Purpose} (halert : ∀ message, P (.alert message))
    (hrender : ∀ seq response, P (.render now seq response)) :
    ∀ effect ∈ answerEffects now reply purpose, P effect := by
  cases reply with
  | error failure => cases purpose <;> simp [answerEffects, halert]
  | ok body =>
      simp only [answerEffects]
      cases purpose.request? with
      | none => simp
      | some request =>
          dsimp only
          cases StatusResponse.decode request.1 body <;> simp [hrender]

/-- The effects that an event may have: only timers poll, only a stop abandons polls, only the index
takes the alerts, only a pending call is closed, and only an answer is rendered. -/
inductive MayHave (a : Application) : Event → Effect → Prop where
  | ask {event : Event} (endpoint : Endpoint) (job : Nat) :
      MayHave a event (.ask endpoint (some job))
  | write {event : Event} (request : PutRequest) (job : Nat) : MayHave a event (.write request job)
  | enter {event : Event} (fragment : String) : MayHave a event (.enter fragment)
  | alert {event : Event} (message : String) : MayHave a event (.alert message)
  | takeAlerts (request : Http.Request) (h : Http.Handler.ofRequest request = .ok .index) :
      MayHave a (.serve request) .takeAlerts
  | start : MayHave a .startPolling
      (.setTimers ((a.poller.start a.clock).fire a.clock).2 a.clock)
  | firstPoll (endpoint : Endpoint) : MayHave a .startPolling (.ask endpoint none)
  | stop : MayHave a .stopPolling (.setTimers a.poller.stop a.clock)
  | abandonPolls : MayHave a .stopPolling .abandonPolls
  | stall (time : Nat) : MayHave a (.stall time)
      (.setTimers (a.poller.fire (a.clock + time)).2 (a.clock + time))
  | poll (time : Nat) (endpoint : Endpoint) : MayHave a (.stall time) (.ask endpoint none)
  | close (p : PendingCall) (hp : p ∈ a.pending) (now : Timestamp) (reply : Reply) :
      MayHave a (.deliver now p.id reply) (.close p.id)
  | render (now : Timestamp) (id : Nat) (reply : Reply) (seq : Nat) (response : StatusResponse) :
      MayHave a (.deliver now id reply) (.render now seq response)

theorem mayHave_of_mem_effects {a : Application} {event : Event} :
    ∀ effect ∈ a.effects event, MayHave a event effect := by
  have hnavigation (event : Event) (fragment : String) :
      ∀ effect ∈ a.navigationEffects fragment, MayHave a event effect := by
    unfold navigationEffects
    split <;> simp [MayHave.enter, MayHave.ask]
  have hcommand (event : Event) (command : Command) :
      ∀ effect ∈ a.commandEffects command, MayHave a event effect := by
    simp [commandEffects, MayHave.write]
  cases event with
  | request endpoint goal => simp [effects, MayHave.ask]
  | navigate fragment goal => exact hnavigation _ fragment
  | command command goal => exact hcommand _ command
  | refuse error => simp [effects, refusalEffects, MayHave.alert]
  | serve request =>
      simp only [effects]
      cases hhandler : Http.Handler.ofRequest request with
      | error refusal => simp
      | ok handler =>
          cases handler with
          | index => exact List.forall_mem_singleton.mpr (.takeAlerts request hhandler)
          | navigate fragment => exact hnavigation _ fragment
          | submit input =>
              cases input with
              | ok command => exact hcommand _ command
              | error error => simp [handlerEffects, refusalEffects, MayHave.alert]
          | _ => simp [handlerEffects]
  | startPolling => simp [effects, tickEffects, MayHave.start, MayHave.firstPoll]
  | stopPolling => simp [effects, MayHave.stop, MayHave.abandonPolls]
  | stall time => simp [effects, tickEffects, MayHave.stall, MayHave.poll]
  | deliver now id reply =>
      simp only [effects]
      cases hfind : a.pending.find? (·.id = id) with
      | none => simp
      | some p =>
          obtain rfl : p.id = id := of_decide_eq_true (List.find?_some hfind :)
          rw [List.forall_mem_cons]
          exact ⟨.close p (List.mem_of_find?_eq_some hfind) now reply,
            forall_mem_answerEffects (fun message => .alert message) (.render now _ reply)⟩

/-- Only an answer is ever rendered. -/
theorem isRender_of_mem_effects {a : Application} {event : Event}
    (hevent : ∀ now id reply, event ≠ .deliver now id reply) :
    ∀ effect ∈ a.effects event, effect.isRender = false := by
  intro effect heffect
  cases mayHave_of_mem_effects effect heffect with
  | render now id reply seq response => exact absurd rfl (hevent now id reply)
  | _ => rfl

/-! ### Forgetting the jobs -/

def withoutJobs (a : Application) : Application :=
  { a with jobs := [], nextJob := 0, finished := #[] }

theorem withoutJobs_enact (a : Application) (effect : Effect) :
    (a.enact effect).withoutJobs = a.withoutJobs.enact effect := by
  cases effect with
  | render now seq response =>
      simp only [enact, apply, withoutJobs]
      cases a.dashboard.accept? now seq response <;> rfl
  | _ => rfl

theorem withoutJobs_enactAll (a : Application) (effects : List Effect) :
    (a.enactAll effects).withoutJobs = a.withoutJobs.enactAll effects := by
  induction effects generalizing a with
  | nil => rfl
  | cons effect rest ih =>
      rw [enactAll_cons, ih, withoutJobs_enact, enactAll_cons]

theorem withoutJobs_startJob (a : Application) (goal : Goal) (owed : Nat) :
    (a.startJob goal owed).withoutJobs = a.withoutJobs := by
  unfold startJob
  split <;> rfl

theorem withoutJobs_settle (a : Application) (job : Nat) (answer : Except Failure Bool) :
    (a.settle job answer).withoutJobs = a.withoutJobs := by
  unfold settle
  split
  · rfl
  · dsimp only
    split <;> rfl

theorem withoutJobs_respond (a : Application) (headOnly : Bool) (response : Http.Response) :
    (a.respond headOnly response).withoutJobs = a.withoutJobs := rfl

/-- A job that starts by sending status requests. -/
theorem foldl_sendStatus (a : Application) (endpoints : List Endpoint) (job : Option Nat) :
    endpoints.foldl (fun a e => a.sendStatus e (Purpose.ask e · job)) a =
      a.enactAll (endpoints.map (.ask · job)) := by
  rw [enactAll, List.foldl_map]
  rfl

/-! A job sends what it has to send once it has started. -/

theorem request_eq (a : Application) (endpoint : Endpoint) (goal : Goal) :
    a.request endpoint goal =
      (a.startJob goal 1).enactAll [.ask endpoint (some a.nextJob)] := rfl

theorem navigate_eq (a : Application) (fragment : String) (goal : Transition → Goal) :
    let endpoints := if (resolve fragment).refreshesSummary then summary else []
    a.navigate fragment goal =
      ((a.enter fragment).2.startJob (goal (a.enter fragment).1) endpoints.length).enactAll
        (endpoints.map (.ask · (some a.nextJob))) := by
  have hpanel : (a.enter fragment).1.after = resolve fragment := by
    simp only [enter, Dashboard.navigate, View.panel_navigate]
  intro endpoints
  rw [← foldl_sendStatus]
  simp only [navigate, hpanel, Purpose.ask]
  rfl

theorem dispatch_eq (a : Application) (command : Command) (goal : Goal) :
    a.dispatch command goal =
      (a.startJob goal (command.requests a.dashboard.paths).length).enactAll
        (a.commandEffects command) := by
  rw [enactAll, commandEffects, List.foldl_map]
  rfl

theorem withoutJobs_request (a : Application) (endpoint : Endpoint) (goal : Goal) :
    (a.request endpoint goal).withoutJobs =
      (a.enactAll [.ask endpoint (some a.nextJob)]).withoutJobs := by
  rw [request_eq, withoutJobs_enactAll, withoutJobs_startJob, withoutJobs_enactAll]

theorem withoutJobs_navigate (a : Application) (fragment : String) (goal : Transition → Goal) :
    (a.navigate fragment goal).withoutJobs =
      (a.enactAll (a.navigationEffects fragment)).withoutJobs := by
  rw [navigate_eq, withoutJobs_enactAll, withoutJobs_startJob, ← withoutJobs_enactAll]
  simp only [navigationEffects, enactAll_cons, enact, Panel.refreshesSummary, beq_iff_eq]
  split <;> rfl

theorem withoutJobs_dispatch (a : Application) (command : Command) (goal : Goal) :
    (a.dispatch command goal).withoutJobs =
      (a.enactAll (a.commandEffects command)).withoutJobs := by
  rw [dispatch_eq, withoutJobs_enactAll, withoutJobs_startJob, withoutJobs_enactAll]

theorem withoutJobs_perform (a : Application) (headOnly : Bool) (handler : Http.Handler) :
    (a.perform headOnly handler).withoutJobs =
      (a.enactAll (a.handlerEffects handler)).withoutJobs := by
  cases handler with
  | health => rfl
  | snapshot => rfl
  | updates =>
      cases headOnly with
      | true => rfl
      | false => exact withoutJobs_startJob a .stream 1
  | index =>
      simp only [perform, servePage, withoutJobs_respond]
      rfl
  | navigate fragment =>
      simp only [perform, handlerEffects]
      exact withoutJobs_navigate a fragment _
  | submit input =>
      cases input with
      | ok command => exact withoutJobs_dispatch a command .redirect
      | error error => exact withoutJobs_startJob (a.refuse error) .redirect 0

theorem withoutJobs_serve (a : Application) (request : Http.Request) :
    (a.serve request).withoutJobs = (a.enactAll (a.effects (.serve request))).withoutJobs := by
  simp only [serve, effects]
  cases Http.Handler.ofRequest request with
  | ok handler => exact withoutJobs_perform a _ handler
  | error refusal => exact withoutJobs_respond a _ _

theorem tick_eq (a : Application) : a.tick = a.enactAll (tickEffects a.poller a.clock) := by
  simp only [tickEffects, enactAll_cons, ← foldl_sendStatus]
  rfl

theorem receive_eq (a : Application) (now : Timestamp) (endpoint : Endpoint) (seq : Nat)
    (reply : Reply) :
    (a.receive now endpoint seq reply).2 =
      a.enactAll (answerEffects now reply (.poll endpoint seq)) := by
  cases reply with
  | error failure => rfl
  | ok body =>
      simp only [receive, answerEffects, Purpose.request?]
      cases StatusResponse.decode endpoint body <;> rfl

theorem acknowledge_eq (a : Application) (reply : Reply) (now : Timestamp) (job : Nat) :
    (a.acknowledge reply).2 = a.enactAll (answerEffects now reply (.write job)) := by
  cases reply <;> rfl

theorem withoutJobs_answer (a : Application) (now : Timestamp) (reply : Reply) (purpose : Purpose) :
    (a.answer now reply purpose).withoutJobs =
      (a.enactAll (answerEffects now reply purpose)).withoutJobs := by
  cases purpose with
  | poll endpoint seq => exact congrArg withoutJobs (receive_eq a now endpoint seq reply)
  | status endpoint seq job =>
      simp only [answer, withoutJobs_settle, receive_eq]
      cases reply <;> rfl
  | write job => simp only [answer, withoutJobs_settle, acknowledge_eq a reply now job]
  | abandoned => cases reply <;> rfl

theorem withoutJobs_deliver (a : Application) (now : Timestamp) (id : Nat) (reply : Reply) :
    (a.deliver now id reply).withoutJobs =
      (a.enactAll (a.effects (.deliver now id reply))).withoutJobs := by
  simp only [deliver, effects]
  cases a.pending.find? (·.id = id) with
  | none => rfl
  | some p => exact withoutJobs_answer _ now reply p.purpose

/-- Apart from the keeping of jobs, an event does what its effects do. -/
theorem withoutJobs_step (a : Application) (event : Event) :
    (a.step event).withoutJobs = (a.enactAll (a.effects event)).withoutJobs := by
  cases event with
  | request endpoint goal => exact withoutJobs_request a endpoint goal
  | navigate fragment goal => exact withoutJobs_navigate a fragment goal
  | command command goal => exact withoutJobs_dispatch a command goal
  | refuse error => rfl
  | serve request => exact withoutJobs_serve a request
  | startPolling => exact congrArg withoutJobs (tick_eq _)
  | stopPolling => rfl
  | stall time => exact congrArg withoutJobs (tick_eq _)
  | deliver now id reply => exact withoutJobs_deliver a now id reply

/-- A property that does not look at the jobs is kept by an event if its effects keep it. -/
theorem step_of_enactAll {P : Application → Prop} (hjobs : ∀ a, P a.withoutJobs ↔ P a)
    {a : Application} {event : Event} (h : P (a.enactAll (a.effects event))) :
    P (a.step event) := by
  rw [← hjobs, withoutJobs_step, hjobs]
  exact h

end Application

end DetectorDashboard
