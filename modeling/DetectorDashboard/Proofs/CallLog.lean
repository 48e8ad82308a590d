import DetectorDashboard.Proofs.Effect
import DetectorDashboard.Proofs.LastResponses

/-! The log of calls. Unless the poller is started, the calls of a run are those of its triggers,
one block after the other: what a trigger asks for depends on the trigger and on the version that
is shown when it happens, and on nothing else. An answer makes no call. -/

namespace DetectorDashboard

namespace Settings

/-- The text of the version's cell, or the version of the settings while there is no such cell. -/
def shownVersion (settings : Settings) (p : Page) : String :=
  if (p.get? CellId.apiVersion).isSome then p.text CellId.apiVersion else settings.apiVersion

/-- The paths as somebody would build them who sees the page. -/
def shownPaths (settings : Settings) (p : Page) : ApiPaths where
  version := settings.shownVersion p
  detectorApi := settings.detectorApi

end Settings

/-- The calls of a navigation: the home panel asks for the version and for the adapters. -/
def navigationCalls (version fragment : String) : List Call :=
  if resolve fragment = .home then
    [⟨.get, "/api", none⟩, ⟨.get, "/api/" ++ version ++ "/adapters/", none⟩]
  else []

/-- The calls of a command: its writes, in their order and with their bodies. -/
def Command.calls (paths : ApiPaths) (command : Command) : List Call :=
  (command.requests paths).map fun request => ⟨.put, request.path, request.body⟩

/-- The calls that a trigger makes. -/
def Event.calls (paths : ApiPaths) : Event → List Call
  | .request endpoint _ => [⟨.get, endpoint.path paths, none⟩]
  | .navigate fragment _ => navigationCalls paths.version fragment
  | .command c _ => c.calls paths
  | .serve r =>
      match Http.Handler.ofRequest r with
      | .ok (.navigate fragment) => navigationCalls paths.version fragment
      | .ok (.submit (.ok c)) => c.calls paths
      | _ => []
  | _ => []

/-- The call that an effect makes. -/
def Effect.call? (paths : ApiPaths) : Effect → Option Call
  | .ask endpoint _ => some ⟨.get, endpoint.path paths, none⟩
  | .write request _ => some ⟨.put, request.path, request.body⟩
  | _ => none

theorem path_adapters (paths : ApiPaths) :
    Endpoint.adapters.path paths = "/api/" ++ paths.version ++ "/adapters/" :=
  String.append_assoc

namespace Application

theorem paths_enact (a : Application) {effect : Effect} (h : effect.isRender = false) :
    (a.enact effect).dashboard.paths = a.dashboard.paths := by
  cases effect with
  | render now seq response => exact nomatch h
  | enter fragment => simp only [enact, enter, publish, Dashboard.navigate, Dashboard.paths]
  | _ => rfl

theorem calls_enact (a : Application) (effect : Effect) :
    (a.enact effect).calls.toList =
      a.calls.toList ++ (effect.call? a.dashboard.paths).toList := by
  cases effect with
  | ask endpoint job => exact Array.toList_push
  | write request job => exact Array.toList_push
  | render now seq response =>
      simp only [enact, apply]
      cases a.dashboard.accept? now seq response <;> exact (List.append_nil _).symm
  | enter fragment =>
      simp only [enact, enter, publish]
      exact (List.append_nil _).symm
  | _ => exact (List.append_nil _).symm

theorem calls_enactAll (a : Application) {effects : List Effect}
    (h : ∀ effect ∈ effects, effect.isRender = false) :
    (a.enactAll effects).calls.toList =
      a.calls.toList ++ effects.filterMap (·.call? a.dashboard.paths) := by
  induction effects generalizing a with
  | nil => simp
  | cons effect rest ih =>
      have hpaths := paths_enact a (h effect List.mem_cons_self)
      rw [enactAll_cons, ih _ fun e he => h e (List.mem_cons_of_mem _ he), calls_enact, hpaths,
        List.append_assoc, List.filterMap_cons]
      cases effect.call? a.dashboard.paths <;> rfl

/-- While no timer is set, the effects of an event make the calls of the event. -/
theorem call?_effects {a : Application} {event : Event} (hidle : a.poller.timers = [])
    (hstart : event ≠ .startPolling) (hdeliver : ∀ now id reply, event ≠ .deliver now id reply)
    (paths : ApiPaths) (hpaths : a.dashboard.paths = paths) :
    (a.effects event).filterMap (·.call? paths) = event.calls paths := by
  have hnavigation (fragment : String) :
      (a.navigationEffects fragment).filterMap (·.call? paths) =
        navigationCalls paths.version fragment := by
    unfold navigationEffects navigationCalls
    split
    · rw [← path_adapters]
      rfl
    · rfl
  have hcommand (command : Command) :
      (a.commandEffects command).filterMap (·.call? paths) = command.calls paths := by
    rw [commandEffects, hpaths, Command.calls, List.filterMap_map, ← List.filterMap_eq_map]
    rfl
  cases event with
  | request endpoint goal => rfl
  | navigate fragment goal => exact hnavigation fragment
  | command command goal => exact hcommand command
  | refuse error => rfl
  | serve request =>
      simp only [effects, Event.calls]
      cases Http.Handler.ofRequest request with
      | error refusal => rfl
      | ok handler =>
          cases handler with
          | navigate fragment => exact hnavigation fragment
          | submit input =>
              cases input with
              | ok command => exact hcommand command
              | error error => rfl
          | _ => rfl
  | startPolling => exact absurd rfl hstart
  | stopPolling => rfl
  | stall time =>
      have hfire : (a.poller.fire (a.clock + time)).1 = [] := by
        simp [Poller.fire, Poller.due, hidle]
      simp only [effects, tickEffects, hfire]
      rfl
  | deliver now id reply => exact absurd rfl (hdeliver now id reply)

/-- An answer makes no call. -/
theorem calls_answerEffects (a : Application) (now : Timestamp) (reply : Reply)
    (purpose : Purpose) :
    (a.enactAll (answerEffects now reply purpose)).calls.toList = a.calls.toList := by
  have hnone : ∀ effect ∈ answerEffects now reply purpose, ∀ paths, effect.call? paths = none :=
    forall_mem_answerEffects (fun _ _ => rfl) (fun _ _ _ => rfl)
  refine enactAll_induction (P := fun b => b.calls.toList = a.calls.toList) _
    (fun effect heffect b hb => ?_) rfl
  rw [calls_enact, hnone effect heffect, hb]
  exact List.append_nil _

end Application

/-- The version of the control server is the one that the page shows. -/
structure Consistent (settings : Settings) (d : Dashboard) : Prop where
  settings_eq : d.settings = settings
  version_eq : d.apiVersion = settings.shownVersion d.page

namespace Consistent

variable {settings : Settings} {d d' : Dashboard}

theorem ofSettings (settings : Settings) : Consistent settings (.ofSettings settings) :=
  ⟨rfl, rfl⟩

theorem paths_eq (h : Consistent settings d) : d.paths = settings.shownPaths d.page := by
  rw [Dashboard.paths, h.settings_eq, h.version_eq]
  rfl

theorem shownVersion_congr {p q : Page}
    (h : p.get? CellId.apiVersion = q.get? CellId.apiVersion) :
    settings.shownVersion p = settings.shownVersion q := by
  rw [Settings.shownVersion, Settings.shownVersion, Page.text, Page.text, h]

theorem shownVersion_of_text {p : Page} {version : String}
    (h : p.get? CellId.apiVersion = some (.text version)) :
    settings.shownVersion p = version := by
  simp [Settings.shownVersion, Page.text, h, Cell.text?]

/-- A version that is reported fills the version's cell, and no other response does. -/
theorem accept? (h : Consistent settings d) {now : Timestamp} {seq : Nat}
    {response : StatusResponse} (haccept : d.accept? now seq response = some d') :
    Consistent settings d' := by
  obtain ⟨gate, -, rfl⟩ := Option.map_eq_some_iff.mp haccept
  refine ⟨h.settings_eq, ?_⟩
  have hframe (hother : response.endpoint ≠ .apiVersion) :
      settings.shownVersion (d.page.render d.settings.tableRows response) = d.apiVersion := by
    rw [h.version_eq]
    refine shownVersion_congr (Page.get?_render_of_not_owns _ _ _ fun howns => hother ?_)
    exact howns.unique (show Endpoint.apiVersion.Owns _ from List.mem_singleton_self _)
  cases response with
  | apiVersion version =>
      have hcell : (d.page.set CellId.apiVersion (.text version)).get? CellId.apiVersion =
          some (.text version) := by
        rw [Page.get?_set, if_pos rfl]
      exact (shownVersion_of_text hcell).symm
  | _ => exact (hframe nofun).symm

end Consistent

namespace Application

theorem consistent_enact {settings : Settings} {a : Application}
    (h : Consistent settings a.dashboard) (effect : Effect) :
    Consistent settings (a.enact effect).dashboard := by
  cases effect with
  | ask endpoint job => exact ⟨h.settings_eq, h.version_eq⟩
  | enter fragment =>
      simp only [enact, enter, publish, Dashboard.navigate]
      exact ⟨h.settings_eq, h.version_eq⟩
  | render now seq response =>
      simp only [enact, apply]
      cases haccept : a.dashboard.accept? now seq response with
      | none => exact h
      | some d => exact h.accept? haccept
  | _ => exact h

theorem consistent_step {settings : Settings} {a : Application}
    (h : Consistent settings a.dashboard) (event : Event) :
    Consistent settings (a.step event).dashboard :=
  step_of_enactAll (P := fun a => Consistent settings a.dashboard) (fun _ => Iff.rfl)
    (enactAll_induction (P := fun a => Consistent settings a.dashboard) _
      (fun effect _ _ h => consistent_enact h effect) h)

theorem timers_fire {poller : Poller} (h : poller.timers = []) (clock : Nat) :
    (poller.fire clock).2.timers = [] := by
  simp [Poller.fire, Poller.due, h]

theorem timers_render (a : Application) (now : Timestamp) (seq : Nat) (response : StatusResponse) :
    (a.enact (.render now seq response)).poller = a.poller := by
  simp only [enact, apply]
  cases a.dashboard.accept? now seq response <;> rfl

/-- No timer is set before the poller is started. -/
theorem timers_step {a : Application} (ha : a.poller.timers = []) {event : Event}
    (hstart : event ≠ .startPolling) : (a.step event).poller.timers = [] := by
  have hkeep : ∀ effect ∈ a.effects event, ∀ b : Application,
      b.poller.timers = [] → (b.enact effect).poller.timers = [] := by
    intro effect heffect b hb
    cases mayHave_of_mem_effects effect heffect with
    | start => exact absurd rfl hstart
    | firstPoll endpoint => exact absurd rfl hstart
    | stop => rfl
    | stall time => exact timers_fire ha (a.clock + time)
    | enter fragment => simpa only [enact, enter, publish] using hb
    | render now id reply seq response => rw [timers_render, hb]
    | _ => exact hb
  exact step_of_enactAll (P := fun a => a.poller.timers = []) (fun _ => Iff.rfl)
    (enactAll_induction (P := fun a => a.poller.timers = []) _ hkeep ha)

theorem calls_step {settings : Settings} {a : Application} (hidle : a.poller.timers = [])
    (h : Consistent settings a.dashboard) {event : Event} (hstart : event ≠ .startPolling) :
    (a.step event).calls.toList =
      a.calls.toList ++ event.calls (settings.shownPaths a.dashboard.page) := by
  refine step_of_enactAll (P := fun b => b.calls.toList =
    a.calls.toList ++ event.calls (settings.shownPaths a.dashboard.page)) (fun _ => Iff.rfl) ?_
  by_cases hdeliver : ∃ now id reply, event = .deliver now id reply
  · obtain ⟨now, id, reply, rfl⟩ := hdeliver
    simp only [effects, Event.calls, List.append_nil]
    cases a.pending.find? (·.id = id) with
    | none => rfl
    | some p =>
        rw [enactAll_cons, calls_answerEffects]
        rfl
  · have hother : ∀ now id reply, event ≠ .deliver now id reply :=
      fun now id reply heq => hdeliver ⟨now, id, reply, heq⟩
    rw [calls_enactAll a (isRender_of_mem_effects hother), h.paths_eq,
      call?_effects hidle hstart hother _ h.paths_eq]

/-- The calls of a run in which the poller is not started are those of its triggers, each made as a
whole when the trigger happens, with the version that is shown then. -/
theorem calls_eq_along_triggers (settings : Settings) (sizes : Sizes) (events : List Event)
    (hstart : .startPolling ∉ events) :
    ((ofSettings settings sizes).run events).calls.toList =
      along (fun a event => event.calls (settings.shownPaths a.dashboard.page))
        (ofSettings settings sizes) events := by
  have hstep : ∀ event ∈ events, ∀ (a : Application) (seen : List Call),
      (a.calls.toList = seen ∧ a.poller.timers = [] ∧ Consistent settings a.dashboard) →
      ((a.step event).calls.toList = seen ++ event.calls (settings.shownPaths a.dashboard.page) ∧
        (a.step event).poller.timers = [] ∧ Consistent settings (a.step event).dashboard) := by
    rintro event hevent a seen ⟨rfl, hidle, h⟩
    have hne : event ≠ .startPolling := fun heq => hstart (heq ▸ hevent)
    exact ⟨calls_step hidle h hne, timers_step hidle hne, consistent_step h event⟩
  exact (along_induction (P := fun a seen => a.calls.toList = seen ∧ a.poller.timers = [] ∧
    Consistent settings a.dashboard) events _ [] hstep ⟨rfl, rfl, .ofSettings settings⟩).1

/-- The version that is reported between two triggers is used by the second. -/
theorem calls_of_navigation_and_command :
    let events : List Event :=
      [ .navigate "#/" .navigation,
        .deliver ⟨0, 0⟩ 0 (.ok (.object [("api", .string "1.8.0")])),
        .refuse (.empty .frames),
        .command (.detector .arm) .command ]
    .startPolling ∉ events ∧ ((ofSettings {} {}).run events).calls.toList =
      [ ⟨.get, "/api", none⟩,
        ⟨.get, "/api/0.1/adapters/", none⟩,
        ⟨.put, "/api/1.8.0/eiger/detector/api/1.6.0/command/arm", none⟩ ] := by
  intro events
  have hstart : .startPolling ∉ events := by simp [events]
  exact ⟨hstart, (calls_eq_along_triggers {} {} events hstart).trans rfl⟩

end Application

end DetectorDashboard
