import DetectorDashboard.Proofs.AlertDelivery
import DetectorDashboard.Proofs.JobProgress

/-! Forms and their redirects. A form that dispatches a command is answered by a redirect to the
page once every write of the command has been answered, and by then each write that failed has
raised its alert, so that the page it leads to can show them. A form whose input cannot be read
raises its one alert, makes no call, and is answered at once. -/

namespace DetectorDashboard

/-- What dispatches a command, and what its job is there for: a form is answered by a redirect. -/
inductive Event.Dispatches : Event → Command → Goal → Prop where
  | command (command : Command) (goal : Goal) : Dispatches (.command command goal) command goal
  | form (r : Http.Request) (command : Command)
      (h : Http.Handler.ofRequest r = .ok (.submit (.ok command))) :
      Dispatches (.serve r) command .redirect

/-- The job that an incident belongs to. -/
def Incident.job? : Incident → Option Nat
  | .resolved r => r.purpose.job?
  | .refused _ => none

namespace Application

/-! ### The start of a command -/

section

variable {a : Application} {event : Event} {command : Command} {goal : Goal}

theorem effects_of_dispatches (h : event.Dispatches command goal) :
    a.effects event = a.commandEffects command := by
  cases h with
  | command => rfl
  | form r command h => simp only [effects, h, handlerEffects]

theorem calls_of_dispatches (h : event.Dispatches command goal) :
    (a.step event).calls.toList = a.calls.toList ++ command.calls a.dashboard.paths := by
  refine step_of_enactAll (P := fun b => b.calls.toList = _) (fun _ => Iff.rfl) ?_
  have hrender : ∀ effect ∈ a.commandEffects command, effect.isRender = false := by
    simp [commandEffects, Effect.isRender]
  rw [effects_of_dispatches h, calls_enactAll a hrender, commandEffects, List.filterMap_map,
    Command.calls, ← List.filterMap_eq_map]
  rfl

end

/-! ### What a command's answers raise -/

theorem alertLog_refuse (a : Application) (error : ValidationError) :
    (a.refuse error).alertLog = a.alertLog ++ ["FAILED: " ++ error.message] := by
  have hlog : (a.refuse error).alertLog = a.alertLog ++ [(Failure.validation error).alert] :=
    alertLog_enactAll a (refusalEffects error)
  rw [hlog, alert_eq_failureText]
  rfl

theorem receives_refuse (a : Application) (error : ValidationError) :
    a.alerts.Receives ("FAILED: " ++ error.message) (a.refuse error).alerts := by
  have hmessage : (Failure.validation error).alert = "FAILED: " ++ error.message :=
    alert_eq_failureText (.validation error)
  rw [← hmessage]
  exact a.alerts.receives_raise _

end Application

end DetectorDashboard
