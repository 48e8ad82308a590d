import DetectorDashboard.Proofs.JobProgress
import DetectorDashboard.Proofs.LatestAnswer

/-! Entering the home panel. The panel is shown at once, and the version and the adapters of the
server are asked for; the navigation is over when both requests have been answered, whatever came of
them and whatever else happened meanwhile. What was answered readably is then shown, unless
something newer is. -/

namespace DetectorDashboard

/-- The fragment that an event navigates to, and what the job of the navigation is there for: a link
is answered by a redirect. -/
def Event.navigation? : Event → Option (String × (Transition → Goal))
  | .navigate fragment goal => some (fragment, goal)
  | .serve r =>
      match Http.Handler.ofRequest r with
      | .ok (.navigate fragment) => some (fragment, fun _ => .redirect)
      | _ => none
  | _ => none

/-- The fragment that an effect navigates to. -/
def Effect.fragment? : Effect → Option String
  | .enter fragment => some fragment
  | _ => none

/-- Where a fragment leads home, the title changes just if it asks for the home panel by name. -/
theorem View.navigate_home {fragment : String} (h : resolve fragment = .home) (v : View) :
    v.navigate fragment =
      { baseTitle := v.baseTitle
        panel := .home
        title := if segment? fragment = some "home-view" then s!"{v.baseTitle} (home-view)"
          else v.baseTitle } := by
  rw [navigate, h]
  by_cases hsegment : segment? fragment = some "home-view"
  · have hnamed : segment? fragment = some Panel.home.name := hsegment
    have hname : " (" ++ (Panel.home.name ++ ")") = " (home-view)" := by decide
    have htitle : s!"{v.baseTitle} ({Panel.home.name})" = s!"{v.baseTitle} (home-view)" := by
      simp only [toString, String.append_assoc, hname]
    rw [pageTitle_of_some hnamed, if_pos hsegment, htitle]
  · have hnone : ∀ p : Panel, segment? fragment ≠ some p.name := by
      intro p hp
      rw [resolve, namedPanel?_eq_some_iff.mpr hp, Option.getD_some] at h
      subst h
      exact hsegment hp
    rw [pageTitle_of_none hnone, if_neg hsegment]

namespace Application

/-! ### The view -/

theorem view_enact (a : Application) (effect : Effect) :
    (a.enact effect).dashboard.view =
      effect.fragment?.toList.foldl View.navigate a.dashboard.view := by
  cases effect with
  | render now seq response =>
      simp only [enact, apply]
      cases haccept : a.dashboard.accept? now seq response with
      | none => rfl
      | some d =>
          obtain ⟨gate, -, rfl⟩ := Option.map_eq_some_iff.mp haccept
          rfl
  | enter fragment =>
      simp only [enact, enter, publish, Dashboard.navigate]
      rfl
  | _ => rfl

theorem view_enactAll (a : Application) (effects : List Effect) :
    (a.enactAll effects).dashboard.view =
      (effects.filterMap (·.fragment?)).foldl View.navigate a.dashboard.view := by
  induction effects generalizing a with
  | nil => rfl
  | cons effect rest ih =>
      rw [enactAll_cons, ih, view_enact, ← List.foldl_append, List.filterMap_cons]
      cases effect.fragment? with
      | none => rfl
      | some fragment => rw [Option.toList_some, List.singleton_append]

theorem fragment?_effects (a : Application) (event : Event) :
    (a.effects event).filterMap (·.fragment?) = (event.navigation?.map (·.1)).toList := by
  have hnavigation (fragment : String) :
      (a.navigationEffects fragment).filterMap (·.fragment?) = [fragment] := by
    unfold navigationEffects
    split <;> rfl
  have hcommand (command : Command) :
      (a.commandEffects command).filterMap (·.fragment?) = [] := by
    simp [commandEffects, Effect.fragment?]
  have htick (poller : Poller) (clock : Nat) :
      (tickEffects poller clock).filterMap (·.fragment?) = [] := by
    simp [tickEffects, Effect.fragment?]
  cases event with
  | request endpoint goal => rfl
  | navigate fragment goal => exact hnavigation fragment
  | command command goal => exact hcommand command
  | refuse error => rfl
  | serve request =>
      simp only [effects, Event.navigation?]
      cases Http.Handler.ofRequest request with
      | error refusal => rfl
      | ok handler =>
          cases handler with
          | navigate fragment => exact hnavigation fragment
          | submit input =>
              cases input with
              | ok command => exact hcommand command
              | error error => rfl
          | _ => rfl
  | startPolling => exact htick _ _
  | stopPolling => rfl
  | stall time => exact htick _ _
  | deliver now id reply =>
      simp only [effects]
      cases a.pending.find? (·.id = id) with
      | none => rfl
      | some p =>
          have hanswer : ∀ effect ∈ answerEffects now reply p.purpose, effect.fragment? = none :=
            forall_mem_answerEffects (fun _ => rfl) (fun _ _ => rfl)
          exact List.filterMap_eq_nil_iff.mpr (List.forall_mem_cons.mpr ⟨rfl, hanswer⟩)

/-- Nothing but a navigation changes the view. -/
theorem view_step (a : Application) (event : Event) :
    (a.step event).dashboard.view =
      (event.navigation?.map (·.1)).toList.foldl View.navigate a.dashboard.view := by
  refine step_of_enactAll (P := fun b => b.dashboard.view = _) (fun _ => Iff.rfl) ?_
  rw [view_enactAll, fragment?_effects]

theorem view_run (a : Application) (events : List Event) :
    (a.run events).dashboard.view =
      (events.filterMap (·.navigation?)).foldl (fun v n => v.navigate n.1) a.dashboard.view := by
  induction events generalizing a with
  | nil => rfl
  | cons event rest ih =>
      have hrest := ih (a.step event)
      rw [view_step] at hrest
      rw [List.filterMap_cons]
      cases hnavigation : event.navigation? <;> simpa [hnavigation, run] using hrest

theorem baseTitle_run (settings : Settings) (sizes : Sizes) (events : List Event) :
    ((ofSettings settings sizes).run events).dashboard.view.baseTitle = settings.baseTitle := by
  refine run_induction (P := fun a => a.dashboard.view.baseTitle = settings.baseTitle) events
    (fun event _ a ha => ?_) rfl
  rw [view_step]
  cases event.navigation? with
  | none => exact ha
  | some n =>
      rw [Option.map_some, Option.toList_some, List.foldl_cons, List.foldl_nil,
        View.baseTitle_navigate]
      exact ha

/-! ### The summary -/

section

variable {a : Application} {event : Event} {fragment : String} {goal : Transition → Goal}

theorem ne_deliver_of_navigation? (h : event.navigation? = some (fragment, goal)) :
    ∀ now id reply, event ≠ .deliver now id reply := by
  rintro now id reply rfl
  cases h

theorem step_of_navigation? (h : event.navigation? = some (fragment, goal)) :
    a.step event = a.navigate fragment goal ∧ a.effects event = a.navigationEffects fragment := by
  cases event with
  | navigate fragment' goal' =>
      obtain ⟨rfl, rfl⟩ := Prod.mk.inj (Option.some.inj h)
      exact ⟨rfl, rfl⟩
  | serve r =>
      simp only [Event.navigation?] at h
      split at h
      · rename_i fragment' hhandler
        obtain ⟨rfl, rfl⟩ := Prod.mk.inj (Option.some.inj h)
        constructor
        · simp only [step, serve, hhandler, perform]
        · simp only [effects, hhandler, handlerEffects]
      · cases h
  | _ => cases h

/-- Different endpoints are asked under the next numbers of their gates. -/
theorem sentAll_asks {endpoints : List Endpoint} (hnodup : endpoints.Nodup) (a : Application)
    (job : Option Nat) :
    (a.sentAll (endpoints.map (.ask · job))).map (fun p => (p.purpose, p.call)) =
      endpoints.map fun e => (.ask e (a.dashboard.gates e).next job,
        ⟨.get, e.path a.dashboard.paths, none⟩) := by
  induction endpoints generalizing a with
  | nil => rfl
  | cons endpoint rest ih =>
      obtain ⟨hnew, hrest⟩ := List.nodup_cons.mp hnodup
      have hpaths := paths_enact a (show (Effect.ask endpoint job).isRender = false from rfl)
      have hgates : ∀ e ∈ rest,
          ((a.enact (.ask endpoint job)).dashboard.gates e).next = (a.dashboard.gates e).next := by
        intro e he
        have hne : e ≠ endpoint := fun heq => hnew (heq ▸ he)
        exact (a.dashboard.next_issue endpoint e).trans (if_neg hne)
      have htail := ih hrest (a.enact (.ask endpoint job))
      rw [hpaths] at htail
      refine congrArg (_ :: ·) (htail.trans (List.map_congr_left fun e he => ?_))
      rw [hgates e he]

/-- The calls of a navigation to the home panel: one to each endpoint of the summary, under the next
number of its gate. -/
theorem owed_of_navigation? (ha : Started a) (h : event.navigation? = some (fragment, goal))
    (hhome : resolve fragment = .home) :
    ((a.step event).owed a.nextJob).map (fun p => (p.purpose, p.call)) =
      summary.map fun e => (.status e (a.dashboard.gates e).next a.nextJob,
        ⟨.get, e.path a.dashboard.paths, none⟩) := by
  obtain ⟨-, heffects⟩ := step_of_navigation? (a := a) h
  have hpaths := paths_enact a (show (Effect.enter fragment).isRender = false from rfl)
  have hgates : (a.enact (.enter fragment)).dashboard.gates = a.dashboard.gates := by
    simp only [enact, enter, publish, Dashboard.navigate]
  have hsent := sentAll_asks (show summary.Nodup by decide) (a.enact (.enter fragment))
    (some a.nextJob)
  rw [hpaths, hgates] at hsent
  have hnone : (Effect.enter fragment).sent? a = none := rfl
  have hentered (effects : List Effect) : a.sentAll (.enter fragment :: effects) =
      (a.enact (.enter fragment)).sentAll effects := by
    rw [sentAll, hnone, Option.toList_none, List.nil_append]
  refine ha.owed_step (ne_deliver_of_navigation? h) ?_ (List.forall_mem_map.mpr fun _ _ => rfl)
  rw [heffects, navigationEffects, if_pos hhome, hentered]
  exact hsent

theorem progress_of_navigation? (ha : Started a) (h : event.navigation? = some (fragment, goal))
    (hhome : resolve fragment = .home) :
    Progress a.nextJob (goal ⟨a.dashboard.view.panel, .home⟩) ((a.step event).owed a.nextJob)
      (a.step event) [] := by
  have hlength := congrArg List.length (owed_of_navigation? ha h hhome)
  rw [List.length_map, List.length_map] at hlength
  have hentered : (a.enter fragment).1 = ⟨a.dashboard.view.panel, .home⟩ := by
    simp only [enter, Dashboard.navigate, View.panel_navigate, hhome]
  refine Progress.start ha ?_
  rw [hlength, (step_of_navigation? h).1, navigate_eq, hentered, hhome]
  have henter : SameJobs a (a.enter fragment).2 := sameJobs_enact a (.enter fragment)
  exact (henter.startJob _ _).trans (sameJobs_enactAll _ _)

end

/-- A response that came is shown in the cells of its endpoint, or one to a later request is. -/
theorem shown_of_response? (settings : Settings) (sizes : Sizes) (events : List Event)
    {r : Resolution} (hr : r ∈ along resolutions (ofSettings settings sizes) events)
    {response : StatusResponse} (hresponse : r.response? = some response) :
    let a := (ofSettings settings sizes).run events
    ∃ seq last m shown, r.purpose.request? = some (response.endpoint, seq) ∧ seq ≤ last ∧
      (a.dashboard.gates response.endpoint).lastApplied = some last ∧
      m ∈ along resolutions (ofSettings settings sizes) events ∧
      m.purpose.request? = some (response.endpoint, last) ∧ m.response? = some shown ∧
      ∀ id, response.endpoint.Owns id →
        a.dashboard.page.get? id = Page.lastCell? (shown.cells settings.tableRows) id := by
  intro a
  have hcurrent := current_run settings sizes events
  obtain ⟨seq, -, hrequest, -, -⟩ := Resolution.of_response? hresponse
  obtain ⟨m, last, hnewest, hlast, hle⟩ := exists_newest?_ge
    (numbered_resolved settings sizes events) hr hrequest (Option.isSome_of_eq_some hresponse)
  obtain ⟨hm, -, hreadable⟩ := mem_of_newest? hnewest
  obtain ⟨shown, hshown⟩ := Option.isSome_iff_exists.mp hreadable
  refine ⟨seq, last, m, shown, hrequest, hle, ?_, hm, hlast, hshown, fun id hid => ?_⟩
  · rw [hcurrent.gate_eq, hnewest, Option.bind_some, Resolution.seq?, hlast]
    rfl
  · rw [hcurrent.shows.owned _ id hid, latest?, hnewest, Option.bind_some, hshown]
    rfl

/-- A navigation to the home panel shows the panel at once, under the title that the dashboard
started from or, if it was asked for by its name, under one with that name. Both requests of the
summary are then still to be answered, and the navigation is over when both have been and not before,
whatever the answers are. Until another navigation the view stays. Of each request that was answered
by a response the page shows that response, or one to a later request to the same endpoint. -/
theorem summary_settled (settings : Settings) (sizes : Sizes) (before : List Event) (event : Event)
    (fragment : String) (goal : Transition → Goal) (after : List Event)
    (hnavigation : event.navigation? = some (fragment, goal)) (hhome : resolve fragment = .home) :
    let a := (ofSettings settings sizes).run before
    let job := a.nextJob
    let b := a.step event
    let c := b.run after
    let answers := (along resolutions b after).filter (·.purpose.job? = some job)
    let resolved := along resolutions (ofSettings settings sizes) (before ++ event :: after)
    b.dashboard.view =
        { baseTitle := settings.baseTitle
          panel := .home
          title := if segment? fragment = some "home-view" then s!"{settings.baseTitle} (home-view)"
            else settings.baseTitle } ∧
      (b.owed job).map (fun p => (p.purpose, p.call)) =
        [ (.status .apiVersion (a.dashboard.gates .apiVersion).next job,
            ⟨.get, Endpoint.apiVersion.path a.dashboard.paths, none⟩),
          (.status .adapters (a.dashboard.gates .adapters).next job,
            ⟨.get, Endpoint.adapters.path a.dashboard.paths, none⟩) ] ∧
      (answers.map (·.toPendingCall) ++ c.owed job).Perm (b.owed job) ∧
      (c.owed job ≠ [] → c.outcomes job = []) ∧
      (c.owed job = [] → ∃ last failures,
        c.outcomes job = [(goal ⟨a.dashboard.view.panel, .home⟩).outcome last failures]) ∧
      c.dashboard.view =
        (after.filterMap (·.navigation?)).foldl (fun v n => v.navigate n.1) b.dashboard.view ∧
      ∀ r ∈ answers, ∀ response, r.response? = some response →
        ∃ seq last m shown, r.purpose.request? = some (response.endpoint, seq) ∧ seq ≤ last ∧
          (c.dashboard.gates response.endpoint).lastApplied = some last ∧
          m ∈ resolved ∧ m.purpose.request? = some (response.endpoint, last) ∧
          m.response? = some shown ∧
          ∀ id, response.endpoint.Owns id →
            c.dashboard.page.get? id = Page.lastCell? (shown.cells settings.tableRows) id := by
  intro a job b c answers resolved
  have hstarted := started_run settings sizes before
  have hprogress : Progress job _ (b.owed job) c answers :=
    (progress_of_navigation? hstarted hnavigation hhome).run
      (numbered_step (numbered_run settings sizes before) event) after
  have hc : c = (ofSettings settings sizes).run (before ++ event :: after) :=
    (run_append _ before (event :: after)).symm
  have hresolved : resolved = along resolutions (ofSettings settings sizes) before ++
      (a.resolutions event ++ along resolutions b after) := along_append ..
  refine ⟨?_, owed_of_navigation? hstarted hnavigation hhome, hprogress.perm,
    fun howed => (hprogress.unfinished howed).2, fun howed => ?_, view_run b after, ?_⟩
  · have hview : b.dashboard.view = a.dashboard.view.navigate fragment := by
      rw [a.view_step event, hnavigation]
      rfl
    rw [hview, View.navigate_home hhome, baseTitle_run]
  · obtain ⟨-, last, houtcome⟩ := hprogress.finished howed
    exact ⟨last, _, houtcome⟩
  · intro r hr response hresponse
    have hmem : r ∈ resolved := by
      rw [hresolved]
      exact List.mem_append_right _ (List.mem_append_right _ (List.mem_of_mem_filter hr))
    rw [hc]
    exact shown_of_response? settings sizes _ hmem hresponse

/-- The home panel is entered twice, the second time by a link. The second request for the adapters
fails, and the first request for the version is overtaken by the second. -/
theorem summary_of_overlapping_navigations :
    let link : Http.Request := { method := .get, target := .ofText "/view" }
    let version (id : Nat) (text : String) : Event :=
      .deliver ⟨0, 0⟩ id (.ok (.object [("api", .string text)]))
    let failed : Event := .deliver ⟨0, 0⟩ 3 (.error (.transport "no route to host"))
    let a := (ofSettings {} {}).run [.navigate "#/" .navigation]
    let b := a.step (.serve link)
    let c := b.run [failed, version 2 "1.8.0", version 0 "1.6.0"]
    (Event.serve link).navigation?.map (·.1) = some "" ∧ resolve "" = .home ∧
      b.dashboard.view = { baseTitle := "Eiger", panel := .home, title := "Eiger" } ∧
      (b.owed a.nextJob).length = 2 ∧ (b.run [failed]).outcomes a.nextJob = [] ∧
      c.outcomes a.nextJob = [.responded .backToPage] ∧
      ∃ last, (c.dashboard.gates .apiVersion).lastApplied = some last ∧ 1 ≤ last := by
  have hlink : Http.Handler.ofRequest { method := .get, target := .ofText "/view" } =
      .ok (.navigate "") := by rfl
  intro link version failed a b c
  have hnavigation : (Event.serve link).navigation? = some ("", fun _ => .redirect) := by
    simp only [Event.navigation?, link, hlink]
  have hhome : resolve "" = .home := by decide
  have hb : b = a.navigate "" fun _ => .redirect := (step_of_navigation? hnavigation).1
  obtain ⟨hview, howed, -, hearly, -⟩ := summary_settled {} {} [.navigate "#/" .navigation]
    (.serve link) "" (fun _ => .redirect) [failed] hnavigation hhome
  obtain ⟨-, -, -, -, hlate, -, hshown⟩ := summary_settled {} {} [.navigate "#/" .navigation]
    (.serve link) "" (fun _ => .redirect) [failed, version 2 "1.8.0", version 0 "1.6.0"]
    hnavigation hhome
  have hpending : (b.run [failed]).owed a.nextJob ≠ [] := by
    rw [hb]
    decide
  have hanswered : c.owed a.nextJob = [] := by
    simp only [c, hb]
    decide +kernel
  have hsecond : (⟨⟨2, ⟨.get, "/api", none⟩, .status .apiVersion 1 1⟩,
      .ok (.object [("api", .string "1.8.0")])⟩ : Resolution) ∈
      (along resolutions b [failed, version 2 "1.8.0", version 0 "1.6.0"]).filter
        (·.purpose.job? = some a.nextJob) := by
    rw [hb]
    exact List.mem_cons_of_mem _ List.mem_cons_self
  obtain ⟨_, _, houtcome⟩ := hlate hanswered
  obtain ⟨seq, last, -, -, hseq, hle, hlast, -⟩ := hshown _ hsecond (.apiVersion "1.8.0") rfl
  obtain rfl : 1 = seq := (Prod.mk.inj (Option.some.inj hseq)).2
  have hc : (((ofSettings {} {}).run [.navigate "#/" .navigation]).step (.serve link)).run
      [failed, version 2 "1.8.0", version 0 "1.6.0"] = c := rfl
  rw [hc, StatusResponse.endpoint] at hlast
  have htwo : (b.owed a.nextJob).length = 2 :=
    (List.length_map _).symm.trans (congrArg List.length howed)
  have hsegment : segment? "" ≠ some "home-view" := by decide
  rw [if_neg hsegment] at hview
  refine ⟨?_, hhome, hview, htwo, hearly hpending, houtcome, last, hlast, hle⟩
  rw [hnavigation]
  rfl

end Application

end DetectorDashboard
