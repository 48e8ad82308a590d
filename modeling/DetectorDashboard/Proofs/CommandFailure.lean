import DetectorDashboard.Proofs.Numbering

/-! Alerts. Two kinds of incidents happen to the application: a call is resolved, or an input is
refused. The alerts that are raised are those of the failed writes and of the refused inputs, one
for each and in the order of the incidents, since only a write has the purpose to which a failure is
reported. -/

namespace DetectorDashboard

inductive Incident where
  | resolved (resolution : Resolution)
  | refused (error : ValidationError)

namespace Incident

/-- What the user is told of a failed write, in the words of whoever reports the failure. -/
def failureText : Failure → String
  | .transport message => "FAILED: " ++ message
  | .rejected message => "FAILED: " ++ message
  | .schema error => "FAILED: " ++ error.message
  | .validation error => "FAILED: " ++ error.message

/-- The alert that an incident raises: a write that fails raises one, and so does a refusal. -/
def message? : Incident → Option String
  | .resolved resolution =>
      match resolution.call.method, resolution.reply with
      | .put, .error failure => some (failureText failure)
      | .put, .ok _ => none
      | .get, _ => none
  | .refused error => some ("FAILED: " ++ error.message)

def resolution? : Incident → Option Resolution
  | .resolved resolution => some resolution
  | .refused _ => none

end Incident

namespace Application

/-- The incident that an event is, if it is one. -/
def incidents (a : Application) : Event → List Incident
  | .deliver now id reply => (a.resolutions (.deliver now id reply)).map .resolved
  | .refuse error => [.refused error]
  | .serve request =>
      match Http.Handler.ofRequest request with
      | .ok (.submit (.error error)) => [.refused error]
      | _ => []
  | _ => []

/-- All alerts ever raised, in their order. -/
def alertLog (a : Application) : List String :=
  a.bus.published.toList.filterMap fun
    | .alert message => some message
    | _ => none

theorem resolution?_incidents (a : Application) (event : Event) :
    (a.incidents event).filterMap (·.resolution?) = a.resolutions event := by
  cases event with
  | deliver now id reply =>
      rw [incidents, List.filterMap_map]
      exact List.filterMap_some
  | serve request =>
      simp only [incidents]
      split <;> rfl
  | _ => rfl

end Application

namespace Effect

def alert? : Effect → Option String
  | .alert message => some message
  | _ => none

end Effect

namespace Application

theorem alertLog_enact (a : Application) (effect : Effect) :
    (a.enact effect).alertLog = a.alertLog ++ effect.alert?.toList := by
  cases effect with
  | alert message => simp [enact, alert, publish, UpdateBus.publish, alertLog, Effect.alert?]
  | enter fragment => simp [enact, enter, publish, UpdateBus.publish, alertLog, Effect.alert?]
  | render now seq response =>
      simp only [enact, apply]
      cases a.dashboard.accept? now seq response with
      | none => exact (List.append_nil _).symm
      | some d => simp [publish, UpdateBus.publish, alertLog, Effect.alert?]
  | _ => exact (List.append_nil _).symm

theorem alertLog_enactAll (a : Application) (effects : List Effect) :
    (a.enactAll effects).alertLog = a.alertLog ++ effects.filterMap (·.alert?) := by
  induction effects generalizing a with
  | nil => exact (List.append_nil _).symm
  | cons effect rest ih =>
      rw [enactAll_cons, ih, alertLog_enact, List.append_assoc, List.filterMap_cons]
      cases effect.alert? <;> rfl

/-! ### The purposes of writes -/

/-- The calls whose failure is reported are the writes. -/
def WritesReport (pending : List PendingCall) : Prop :=
  ∀ p ∈ pending, p.call.method = .put ↔ ∃ job, p.purpose = .write job

theorem writesReport_enact {a : Application} (h : WritesReport a.pending) (effect : Effect) :
    WritesReport (a.enact effect).pending := by
  cases effect with
  | ask endpoint job =>
      refine List.forall_mem_append.mpr ⟨h, List.forall_mem_singleton.mpr ?_⟩
      cases job <;> exact ⟨nofun, nofun⟩
  | write request job =>
      exact List.forall_mem_append.mpr
        ⟨h, List.forall_mem_singleton.mpr ⟨fun _ => ⟨job, rfl⟩, fun _ => rfl⟩⟩
  | close id => exact fun p hp => h p (List.mem_of_mem_filter hp)
  | abandonPolls =>
      refine List.forall_mem_map.mpr fun p hp => ?_
      have hwrites := h p hp
      rcases abandonPoll_eq a.poller.timers p with hsame | ⟨⟨endpoint, seq, hpoll⟩, hgone⟩
      · rwa [hsame]
      · rw [hpoll] at hwrites
        rw [hgone]
        exact ⟨fun hput => (nomatch hwrites.mp hput), nofun⟩
  | render now seq response =>
      simp only [enact, apply]
      cases a.dashboard.accept? now seq response <;> exact h
  | enter fragment =>
      simp only [enact, enter, publish]
      exact h
  | _ => exact h

theorem alert_eq_failureText (failure : Failure) :
    failure.alert = Incident.failureText failure := by
  cases failure <;> rfl

theorem alert?_answerEffects_ok (now : Timestamp) (body : Json) (purpose : Purpose) :
    (answerEffects now (.ok body) purpose).filterMap (·.alert?) = [] := by
  simp only [answerEffects]
  cases purpose.request? with
  | none => rfl
  | some request =>
      dsimp only
      cases StatusResponse.decode request.1 body <;> rfl

theorem alert?_answerEffects {p : PendingCall}
    (h : p.call.method = .put ↔ ∃ job, p.purpose = .write job) (now : Timestamp) (reply : Reply) :
    (answerEffects now reply p.purpose).filterMap (·.alert?) =
      (Incident.message? (.resolved ⟨p, reply⟩)).toList := by
  cases reply with
  | ok body =>
      rw [alert?_answerEffects_ok]
      cases hmethod : p.call.method <;> simp [Incident.message?, hmethod]
  | error failure =>
      cases hmethod : p.call.method with
      | put =>
          obtain ⟨job, hjob⟩ := h.mp hmethod
          simp [answerEffects, hjob, Effect.alert?, Incident.message?, hmethod,
            alert_eq_failureText]
      | get =>
          have hpurpose : ∀ job, p.purpose ≠ .write job := by
            intro job hjob
            have hput := h.mpr ⟨job, hjob⟩
            rw [hmethod] at hput
            cases hput
          have hnone : answerEffects now (.error failure) p.purpose = [] := by
            cases hp : p.purpose with
            | write job => exact absurd hp (hpurpose job)
            | _ => rfl
          simp [hnone, Incident.message?, hmethod]

/-- The alerts of an event are those of its incident. -/
theorem alert?_effects {a : Application} (h : WritesReport a.pending) (event : Event) :
    (a.effects event).filterMap (·.alert?) = (a.incidents event).filterMap (·.message?) := by
  have hnavigation (fragment : String) :
      (a.navigationEffects fragment).filterMap (·.alert?) = [] := by
    unfold navigationEffects
    split <;> rfl
  have hcommand (command : Command) : (a.commandEffects command).filterMap (·.alert?) = [] := by
    simp [commandEffects, Effect.alert?]
  have htick (poller : Poller) (clock : Nat) :
      (tickEffects poller clock).filterMap (·.alert?) = [] := by
    simp [tickEffects, Effect.alert?]
  cases event with
  | request endpoint goal => rfl
  | navigate fragment goal => exact hnavigation fragment
  | command command goal => exact hcommand command
  | refuse error => rfl
  | serve request =>
      simp only [effects, incidents]
      cases Http.Handler.ofRequest request with
      | error refusal => rfl
      | ok handler =>
          cases handler with
          | navigate fragment => exact hnavigation fragment
          | submit input =>
              cases input with
              | ok command => exact hcommand command
              | error error => rfl
          | _ => rfl
  | startPolling => exact htick _ _
  | stopPolling => rfl
  | stall time => exact htick _ _
  | deliver now id reply =>
      simp only [effects, incidents, resolutions]
      cases hfind : a.pending.find? (·.id = id) with
      | none => rfl
      | some p =>
          have hp := h p (List.mem_of_find?_eq_some hfind)
          have hanswer := alert?_answerEffects hp now reply
          rw [List.filterMap_cons_none rfl, hanswer]
          cases hmessage : Incident.message? (.resolved ⟨p, reply⟩) <;> simp [hmessage]

theorem alertLog_step {a : Application} (h : WritesReport a.pending) (event : Event) :
    (a.step event).alertLog = a.alertLog ++ (a.incidents event).filterMap (·.message?) := by
  refine step_of_enactAll (P := fun b => b.alertLog =
    a.alertLog ++ (a.incidents event).filterMap (·.message?)) (fun _ => Iff.rfl) ?_
  rw [alertLog_enactAll, alert?_effects h]

theorem writesReport_step {a : Application} (h : WritesReport a.pending) (event : Event) :
    WritesReport (a.step event).pending :=
  step_of_enactAll (P := fun a => WritesReport a.pending) (fun _ => Iff.rfl)
    (enactAll_induction (P := fun a => WritesReport a.pending) _
      (fun effect _ _ h => writesReport_enact h effect) h)

theorem writesReport_ofSettings (settings : Settings) (sizes : Sizes) :
    WritesReport (ofSettings settings sizes).pending :=
  fun _ hp => nomatch hp

theorem alertLog_run {a : Application} (h : WritesReport a.pending) (events : List Event) :
    (a.run events).alertLog = a.alertLog ++ (along incidents a events).filterMap (·.message?) := by
  refine (@along_induction _ incidents (fun b seen =>
    b.alertLog = a.alertLog ++ seen.filterMap (·.message?) ∧ WritesReport b.pending) events a []
    (fun event _ b seen hb => ?_) ⟨(List.append_nil _).symm, h⟩).1
  rw [List.filterMap_append, alertLog_step hb.2, hb.1, List.append_assoc]
  exact ⟨rfl, writesReport_step hb.2 event⟩

theorem resolution?_along (a : Application) (events : List Event) :
    (along incidents a events).filterMap (·.resolution?) = along resolutions a events := by
  rw [along_filterMap]
  exact congrArg (along · a events) (funext fun a => funext (resolution?_incidents a))

/-- The alerts of a run are those of its incidents, one for each failed write and for each refused
input. Every call is resolved under its number in the log of calls, and at most once. -/
theorem alertLog_eq_messages (settings : Settings) (sizes : Sizes) (events : List Event) :
    let a := (ofSettings settings sizes).run events
    let incidents := along incidents (ofSettings settings sizes) events
    let resolved := incidents.filterMap (·.resolution?)
    a.alertLog = incidents.filterMap (·.message?) ∧
      (resolved.map (·.id)).Nodup ∧
      resolved.map (fun r => a.calls[r.id]?) = resolved.map (fun r => some r.call) := by
  intro a incidents resolved
  have hresolved : resolved = along resolutions (ofSettings settings sizes) events :=
    resolution?_along _ events
  have hnumbered := numbered_resolved settings sizes events
  rw [← hresolved] at hnumbered
  refine ⟨?_, ?_, ?_⟩
  · exact alertLog_run (writesReport_ofSettings settings sizes) events
  · have hnodup := hnumbered.nodup
    rwa [List.map_map] at hnodup
  · exact List.map_congr_left fun r hr => hnumbered.call_eq _ (List.mem_map_of_mem hr)

end Application

end DetectorDashboard
