import DetectorDashboard.Proofs.AlertBoxes
import DetectorDashboard.Proofs.CommandFailure

/-! What the responses of a run show of the alerts. Only the page is HTML, and it shows the alerts
that are pending as it is rendered; a request for its head alone is answered by the same page without
its body. -/

namespace DetectorDashboard

/-- The alerts that whoever gets a response is shown. -/
def Http.Response.alerts (r : Response) : List String :=
  if r.contentType = some "text/html; charset=utf-8" then Html.alertTexts r.body.toList else []

def Outcome.response? : Outcome → Option Http.Response
  | .responded response => some response
  | _ => none

/-- How an alert leaves the queue. -/
inductive Departure where
  | shown
  /-- With a page of which only the head was sent. -/
  | unseen
  | displaced
deriving DecidableEq

/-- How the alerts leave the queue that leave it while a request is answered. -/
def Http.Handler.departure (headOnly : Bool) : Handler → Departure
  | .index => if headOnly then .unseen else .shown
  | _ => .displaced

/-- How the alerts leave the queue that leave it as an event happens. -/
def Event.departure : Event → Departure
  | .serve r =>
      match Http.Handler.ofRequest r with
      | .ok handler => handler.departure (r.method == .head)
      | .error _ => .displaced
  | _ => .displaced

/-- What is shown of the alerts that leave the queue. -/
def Departure.shows : Departure → List String → List String
  | .shown, alerts => alerts.map Html.escape
  | _, _ => []

namespace Application

/-- All responses ever sent. -/
def responses (a : Application) : List Http.Response :=
  a.finished.toList.filterMap (·.2.response?)

/-- The alerts that have been shown, response by response. -/
def shownAlerts (a : Application) : List String :=
  a.responses.flatMap (·.alerts)

theorem responses_finish (a : Application) (job : Nat) (outcome : Outcome) :
    (a.finish job outcome).responses = a.responses ++ outcome.response?.toList := by
  rw [responses, finish, Array.toList_push, List.filterMap_append]
  cases h : outcome.response? <;> simp [responses, h]

theorem shownAlerts_finish (a : Application) (job : Nat) (outcome : Outcome) :
    (a.finish job outcome).shownAlerts =
      a.shownAlerts ++ outcome.response?.toList.flatMap (·.alerts) := by
  rw [shownAlerts, responses_finish, List.flatMap_append]
  rfl

/-- Only the page is HTML. -/
theorem alerts_of_contentType {r : Http.Response}
    (h : r.contentType ≠ some "text/html; charset=utf-8") : r.alerts = [] :=
  if_neg h

theorem alerts_json (status : Nat) (body : Json) : (Http.Response.json status body).alerts = [] :=
  alerts_of_contentType (by decide : some "application/json" ≠ some "text/html; charset=utf-8")

theorem alerts_outcome (goal : Goal) (answer : Except Failure Bool) (failures : Nat) :
    (goal.outcome answer failures).response?.toList.flatMap (·.alerts) = [] := by
  cases goal with
  | redirect => exact (List.append_nil _).trans (alerts_of_contentType nofun)
  | stream => exact (List.append_nil _).trans (alerts_of_contentType (by decide))
  | _ => rfl

theorem alerts_refusal (refusal : Http.Refusal) : refusal.response.alerts = [] := by
  have htext : some "text/plain; charset=utf-8" ≠ some "text/html; charset=utf-8" := by decide
  cases refusal with
  | notFound => exact alerts_of_contentType nofun
  | methodNotAllowed allow => exact alerts_of_contentType nofun
  | unknownAction name => exact alerts_json _ _
  | _ => exact alerts_of_contentType htext

theorem alerts_withoutBody (r : Http.Response) : r.withoutBody.alerts = [] := by
  unfold Http.Response.alerts
  split <;> rfl

theorem shownAlerts_startJob (a : Application) (goal : Goal) (owed : Nat) :
    (a.startJob goal owed).shownAlerts = a.shownAlerts := by
  unfold startJob
  split
  · rw [shownAlerts_finish, alerts_outcome, List.append_nil]
    rfl
  · rfl

theorem shownAlerts_settle (a : Application) (job : Nat) (answer : Except Failure Bool) :
    (a.settle job answer).shownAlerts = a.shownAlerts := by
  unfold settle
  split
  · rfl
  · dsimp only
    split
    · rw [shownAlerts_finish, alerts_outcome, List.append_nil]
      rfl
    · rfl

theorem finished_enact (a : Application) (effect : Effect) :
    (a.enact effect).finished = a.finished := by
  cases effect with
  | enter fragment => simp only [enact, enter, publish]
  | render now seq response =>
      simp only [enact, apply]
      cases a.dashboard.accept? now seq response <;> rfl
  | _ => rfl

theorem shownAlerts_enactAll (a : Application) (effects : List Effect) :
    (a.enactAll effects).shownAlerts = a.shownAlerts := by
  have hfinished : (a.enactAll effects).finished = a.finished :=
    enactAll_induction (P := fun b => b.finished = a.finished) effects
      (fun effect _ b hb => (finished_enact b effect).trans hb) rfl
  rw [shownAlerts, responses, hfinished]
  rfl

theorem responses_respond (a : Application) (response : Http.Response) :
    (a.respond false response).responses = a.responses ++ [response] :=
  responses_finish { a with nextJob := a.nextJob + 1 } a.nextJob (.responded response)

theorem shownAlerts_respond (a : Application) (headOnly : Bool) (response : Http.Response) :
    (a.respond headOnly response).shownAlerts =
      a.shownAlerts ++ if headOnly then [] else response.alerts := by
  have hfinish := shownAlerts_finish { a with nextJob := a.nextJob + 1 } a.nextJob
    (.responded (if headOnly then response.withoutBody else response))
  refine hfinish.trans (congrArg (a.shownAlerts ++ ·) ?_)
  cases headOnly with
  | true => exact (List.append_nil _).trans (alerts_withoutBody response)
  | false => exact List.append_nil _

theorem shownAlerts_respond_of_eq_nil (a : Application) (headOnly : Bool)
    {response : Http.Response} (h : response.alerts = []) :
    (a.respond headOnly response).shownAlerts = a.shownAlerts := by
  rw [shownAlerts_respond, h, ite_self, List.append_nil]

/-- The page shows the alerts that are pending. -/
theorem alerts_servePage (a : Application) :
    a.servePage.1.alerts = a.alerts.pending.map Html.escape :=
  (if_pos rfl).trans (alertTexts_document _ _ _ _)

theorem perform_index (a : Application) (headOnly : Bool) :
    a.perform headOnly .index = a.servePage.2.respond headOnly a.servePage.1 := rfl

/-- A request for the page is answered by the page. -/
theorem responses_step_index (a : Application) {r : Http.Request}
    (hindex : Http.Handler.ofRequest r = .ok .index) (hmethod : r.method ≠ .head) :
    (a.step (.serve r)).responses = a.responses ++ [a.servePage.1] := by
  have hserve : a.step (.serve r) = a.servePage.2.respond false a.servePage.1 := by
    simp only [step, serve, hindex, beq_eq_false_iff_ne.mpr hmethod, perform_index]
  rw [hserve, responses_respond]
  rfl

theorem shownAlerts_navigate (a : Application) (fragment : String) (goal : Transition → Goal) :
    (a.navigate fragment goal).shownAlerts = a.shownAlerts := by
  rw [navigate_eq, shownAlerts_enactAll, shownAlerts_startJob]
  exact shownAlerts_enactAll a [.enter fragment]

theorem shownAlerts_dispatch (a : Application) (command : Command) (goal : Goal) :
    (a.dispatch command goal).shownAlerts = a.shownAlerts := by
  rw [dispatch_eq, shownAlerts_enactAll, shownAlerts_startJob]

theorem shownAlerts_refuse (a : Application) (error : ValidationError) :
    (a.refuse error).shownAlerts = a.shownAlerts :=
  shownAlerts_enactAll a (refusalEffects error)

theorem shownAlerts_perform (a : Application) (headOnly : Bool) (handler : Http.Handler) :
    (a.perform headOnly handler).shownAlerts =
      a.shownAlerts ++ (handler.departure headOnly).shows a.alerts.pending := by
  cases handler with
  | index =>
      have hserved : a.servePage.2.shownAlerts = a.shownAlerts :=
        shownAlerts_enactAll a [.takeAlerts]
      rw [perform_index, shownAlerts_respond, alerts_servePage, hserved]
      cases headOnly <;> rfl
  | health =>
      have htext := alerts_of_contentType (r := .text 200 "OK") (by decide)
      exact (shownAlerts_respond_of_eq_nil a headOnly htext).trans (List.append_nil _).symm
  | snapshot =>
      have hjson := alerts_json 200 a.dashboard.snapshot.json
      exact (shownAlerts_respond_of_eq_nil a headOnly hjson).trans (List.append_nil _).symm
  | updates =>
      refine Eq.trans ?_ (List.append_nil _).symm
      cases headOnly with
      | true => exact shownAlerts_respond_of_eq_nil a true (alerts_of_contentType (by decide))
      | false => exact shownAlerts_startJob a .stream 1
  | navigate fragment =>
      refine Eq.trans ?_ (List.append_nil _).symm
      exact shownAlerts_navigate a fragment fun _ => .redirect
  | submit input =>
      refine Eq.trans ?_ (List.append_nil _).symm
      cases input with
      | ok command => exact shownAlerts_dispatch a command .redirect
      | error error =>
          exact (shownAlerts_startJob (a.refuse error) .redirect 0).trans
            (shownAlerts_refuse a error)

theorem shownAlerts_deliver (a : Application) (now : Timestamp) (id : Nat) (reply : Reply) :
    (a.deliver now id reply).shownAlerts = a.shownAlerts := by
  unfold deliver
  cases a.pending.find? (·.id = id) with
  | none => rfl
  | some p =>
      dsimp only
      cases p.purpose with
      | poll endpoint seq =>
          rw [answer, receive_eq, shownAlerts_enactAll]
          rfl
      | status endpoint seq job =>
          simp only [answer]
          rw [shownAlerts_settle, receive_eq, shownAlerts_enactAll]
          rfl
      | write job =>
          simp only [answer]
          rw [shownAlerts_settle, acknowledge_eq _ reply now job, shownAlerts_enactAll]
          rfl
      | abandoned => rfl

/-- A page shows the alerts that are pending, and no other response shows any. -/
theorem shownAlerts_step (a : Application) (event : Event) :
    (a.step event).shownAlerts = a.shownAlerts ++ event.departure.shows a.alerts.pending := by
  have htick (b : Application) : b.tick.shownAlerts = b.shownAlerts := by
    rw [tick_eq, shownAlerts_enactAll]
  cases event with
  | serve r =>
      simp only [step, serve, Event.departure]
      cases Http.Handler.ofRequest r with
      | ok handler => exact shownAlerts_perform a (r.method == .head) handler
      | error refusal =>
          have hrefused := shownAlerts_respond_of_eq_nil a (r.method == .head)
            (alerts_refusal refusal)
          exact hrefused.trans (List.append_nil _).symm
  | request endpoint goal =>
      refine Eq.trans ?_ (List.append_nil _).symm
      rw [step, request_eq, shownAlerts_enactAll, shownAlerts_startJob]
  | navigate fragment goal =>
      exact (shownAlerts_navigate a fragment goal).trans (List.append_nil _).symm
  | command command goal =>
      exact (shownAlerts_dispatch a command goal).trans (List.append_nil _).symm
  | refuse error => exact (shownAlerts_refuse a error).trans (List.append_nil _).symm
  | startPolling => exact (htick _).trans (List.append_nil _).symm
  | stopPolling => exact (List.append_nil _).symm
  | stall time => exact (htick _).trans (List.append_nil _).symm
  | deliver now id reply =>
      exact (shownAlerts_deliver a now id reply).trans (List.append_nil _).symm

end Application

end DetectorDashboard
