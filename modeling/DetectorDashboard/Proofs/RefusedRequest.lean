import DetectorDashboard.Proofs.JobProgress
import DetectorDashboard.Proofs.RefreshOutcome
import DetectorDashboard.Proofs.ShownAlerts

/-! Requests that are refused. A request over HTTP is a job, and its responses are the outcomes of
that job, however late. What a handler answers is no error, so that a request whose response has a
status from 400 on was refused, and a refusal has no effect. -/

namespace DetectorDashboard

/-- Whether a response blames the request. -/
def Http.Response.IsClientError (r : Response) : Prop :=
  400 ≤ r.status ∧ r.status < 500

theorem Http.Refusal.isClientError (refusal : Refusal) : refusal.response.IsClientError := by
  cases refusal <;> simp [Response.IsClientError, response, Response.text, Response.json]

/-- Nothing has changed but the keeping of jobs. -/
structure Undisturbed (a b : Application) : Prop extends Untouched a b where
  calls_eq : b.calls = a.calls
  pending_eq : b.pending = a.pending
  poller_eq : b.poller = a.poller
  clock_eq : b.clock = a.clock

namespace Application

/-- The router without or with static files. -/
def serveWith (a : Application) (assets? : Option Http.AssetDirectory) (r : Http.Request) :
    Application :=
  match assets? with
  | none => a.serve r
  | some directory => a.serveWithAssets directory r

theorem serveWith_cases (a : Application) (assets? : Option Http.AssetDirectory)
    (r : Http.Request) :
    a.serveWith assets? r = a.step (.serve r) ∨
      ∃ response, a.serveWith assets? r = a.respond (r.method == .head) response := by
  cases assets? with
  | none => exact .inl rfl
  | some directory =>
      simp only [serveWith, serveWithAssets]
      cases Http.assetPath? r.target with
      | none => exact .inl rfl
      | some path => exact .inr ⟨_, rfl⟩

theorem undisturbed_of_withoutJobs {a b : Application} (h : b.withoutJobs = a.withoutJobs) :
    Undisturbed a b where
  dashboard_eq := (congrArg dashboard h :)
  alerts_eq := (congrArg alerts h :)
  bus_eq := (congrArg bus h :)
  calls_eq := (congrArg calls h :)
  pending_eq := (congrArg pending h :)
  poller_eq := (congrArg poller h :)
  clock_eq := (congrArg clock h :)

theorem undisturbed_of_effects {a : Application} {event : Event} (h : a.effects event = []) :
    Undisturbed a (a.step event) := by
  apply undisturbed_of_withoutJobs
  rw [withoutJobs_step, h, enactAll_nil]

/-! ### The responses to a request -/

/-- What waits after an answer waits for the same purpose as before. -/
theorem goal_of_mem_waiting_settle {a : Application} {job other : Nat}
    {answer : Except Failure Bool} {k : Job} (hk : k ∈ (a.settle other answer).waiting job) :
    ∃ j ∈ a.waiting job, k.goal = j.goal := by
  cases hfind : a.jobs.find? (·.id = other) with
  | none =>
      rw [settle_of_none hfind] at hk
      exact ⟨k, hk, rfl⟩
  | some j =>
      rw [settle_eq hfind] at hk
      split at hk
      · obtain ⟨hk, hkid⟩ := List.mem_filter.mp hk
        exact ⟨k, List.mem_filter.mpr ⟨List.mem_of_mem_filter hk, hkid⟩, rfl⟩
      · obtain ⟨hk, hkid⟩ := List.mem_filter.mp hk
        obtain ⟨l, hl, rfl⟩ := List.mem_map.mp hk
        by_cases hlid : l.id = other
        · rw [if_pos hlid] at hkid ⊢
          exact ⟨j, List.mem_filter.mpr ⟨List.mem_of_find?_eq_some hfind, hkid⟩, rfl⟩
        · rw [if_neg hlid] at hkid ⊢
          exact ⟨l, List.mem_filter.mpr ⟨hl, hkid⟩, rfl⟩

/-- What comes of a job by an answer comes of a job that waited for it. -/
theorem of_mem_outcomes_settle {a : Application} {job other : Nat}
    {answer : Except Failure Bool} {outcome : Outcome}
    (houtcome : outcome ∈ (a.settle other answer).outcomes job) :
    outcome ∈ a.outcomes job ∨
      ∃ j ∈ a.waiting job, ∃ failures, outcome = j.goal.outcome answer failures := by
  cases hfind : a.jobs.find? (·.id = other) with
  | none =>
      rw [settle_of_none hfind] at houtcome
      exact .inl houtcome
  | some j =>
      have hid : j.id = other := of_decide_eq_true (List.find?_some hfind :)
      rw [settle_eq hfind] at houtcome
      split at houtcome
      · rw [outcomes_finish] at houtcome
        rcases List.mem_append.mp houtcome with houtcome | houtcome
        · exact .inl houtcome
        · by_cases hother : other = job
          · rw [if_pos hother] at houtcome
            obtain rfl := List.mem_singleton.mp houtcome
            have hj : j ∈ a.waiting job := List.mem_filter.mpr
              ⟨List.mem_of_find?_eq_some hfind, decide_eq_true (hid.trans hother)⟩
            exact .inr ⟨j, hj, _, rfl⟩
          · rw [if_neg hother] at houtcome
            cases houtcome
      · exact .inl houtcome

/-- Whatever a job has responded, or may respond when it is finished, satisfies `P`. -/
structure AnswersWith (P : Http.Response → Prop) (job : Nat) (a : Application) : Prop where
  started : job < a.nextJob
  waiting : ∀ j ∈ a.waiting job, ∀ answer failures,
    ∀ response ∈ (j.goal.outcome answer failures).response?, P response
  outcomes : ∀ outcome ∈ a.outcomes job, ∀ response ∈ outcome.response?, P response

namespace AnswersWith

variable {P : Http.Response → Prop} {job : Nat} {a b : Application}

theorem of_eq (h : AnswersWith P job a) (hnext : a.nextJob ≤ b.nextJob)
    (hwaiting : b.waiting job = a.waiting job) (houtcomes : b.outcomes job = a.outcomes job) :
    AnswersWith P job b where
  started := Nat.lt_of_lt_of_le h.started hnext
  waiting := hwaiting ▸ h.waiting
  outcomes := houtcomes ▸ h.outcomes

theorem of_sameJobs (h : AnswersWith P job a) (hsame : SameJobs a b) : AnswersWith P job b :=
  h.of_eq (Nat.le_of_eq hsame.next_eq.symm) (hsame.waiting_eq job) (hsame.outcomes_eq job)

/-- A job that is finished as soon as it has started. -/
theorem complete (h : Started a) {outcome : Outcome}
    (houtcome : ∀ response ∈ outcome.response?, P response) :
    AnswersWith P a.nextJob (a.complete outcome) := by
  refine ⟨Nat.lt_succ_self _, ?_, ?_⟩
  · simp [h.waiting_complete outcome]
  · simpa [h.outcomes_complete outcome] using houtcome

/-- A job that has just been opened. -/
theorem startJob (h : Started a) {goal : Goal} (owed : Nat)
    (hgoal : ∀ answer failures, ∀ response ∈ (goal.outcome answer failures).response?, P response) :
    AnswersWith P a.nextJob (a.startJob goal owed) := by
  by_cases howed : owed = 0
  · subst howed
    exact complete h (hgoal _ _)
  · refine ⟨?_, ?_, ?_⟩
    · rw [nextJob_startJob]
      exact Nat.lt_succ_self _
    · simpa [h.waiting_startJob goal howed] using hgoal
    · simp [h.outcomes_startJob goal howed]

theorem settle (h : AnswersWith P job a) (other : Nat) (answer : Except Failure Bool) :
    AnswersWith P job (a.settle other answer) := by
  refine ⟨?_, ?_, ?_⟩
  · rw [nextJob_settle]
    exact h.started
  · intro k hk
    obtain ⟨j, hj, hgoal⟩ := goal_of_mem_waiting_settle hk
    rw [hgoal]
    exact h.waiting j hj
  · intro outcome houtcome
    rcases of_mem_outcomes_settle houtcome with houtcome | ⟨j, hj, failures, rfl⟩
    · exact h.outcomes outcome houtcome
    · exact h.waiting j hj answer failures

theorem step (h : AnswersWith P job a) (event : Event) : AnswersWith P job (a.step event) := by
  rcases step_jobs a event with hopens | hsame | ⟨b, other, answer, hsame, hsettle⟩
  · obtain ⟨hwaiting, houtcomes⟩ := hopens.other (Nat.ne_of_lt h.started)
    exact h.of_eq hopens.next_le hwaiting houtcomes
  · exact h.of_sameJobs hsame
  · rw [hsettle]
    exact (h.of_sameJobs hsame).settle other answer

theorem run (h : AnswersWith P job a) (events : List Event) : AnswersWith P job (a.run events) :=
  run_induction events (fun event _ _ hb => hb.step event) h

end AnswersWith

/-- A handler answers with the page, with what is asked for, or with the way back. -/
theorem answersWith_perform {a : Application} (h : Started a) (headOnly : Bool)
    (handler : Http.Handler) :
    AnswersWith (·.status < 400) a.nextJob (a.perform headOnly handler) := by
  have hrespond (response : Http.Response) (hstatus : response.status < 400) :
      AnswersWith (·.status < 400) a.nextJob (a.respond headOnly response) := by
    refine AnswersWith.complete h ?_
    rintro _ ⟨⟩
    cases headOnly <;> exact hstatus
  have hredirect (owed : Nat) :
      AnswersWith (·.status < 400) a.nextJob (a.startJob .redirect owed) :=
    AnswersWith.startJob h owed (by rintro answer failures _ ⟨⟩; decide)
  cases handler with
  | health => exact hrespond _ (by decide)
  | snapshot => exact hrespond (.json 200 _) (show 200 < 400 by decide)
  | updates =>
      cases headOnly with
      | true => exact hrespond _ (by decide)
      | false => exact AnswersWith.startJob h 1 (by rintro answer failures _ ⟨⟩; decide)
  | index => exact (hrespond a.servePage.1 (show 200 < 400 by decide)).of_sameJobs ⟨rfl, rfl, rfl⟩
  | navigate fragment =>
      have hentered := sameJobs_enact a (.enter fragment)
      rw [perform, navigate_eq]
      exact ((hredirect _).of_sameJobs (hentered.startJob .redirect _)).of_sameJobs
        (sameJobs_enactAll _ _)
  | submit input =>
      cases input with
      | ok command =>
          rw [perform, submit, dispatch_eq]
          exact (hredirect _).of_sameJobs (sameJobs_enactAll _ _)
      | error error =>
          refine (hredirect 0).of_sameJobs ?_
          exact (sameJobs_enactAll a (refusalEffects error)).startJob .redirect 0

/-! ### Requests without an effect -/

theorem undisturbed_respond (a : Application) (headOnly : Bool) (response : Http.Response) :
    Undisturbed a (a.respond headOnly response) :=
  undisturbed_of_withoutJobs (withoutJobs_respond a headOnly response)

theorem outcomes_serve_refused {a : Application} (h : Started a) {r : Http.Request}
    {refusal : Http.Refusal} (hrefused : Http.Handler.ofRequest r = .error refusal) :
    ∃ response, (a.serve r).outcomes a.nextJob = [.responded response] ∧
      response.IsClientError := by
  rw [serve, hrefused]
  refine ⟨_, h.outcomes_complete _, ?_⟩
  split <;> exact refusal.isClientError

/-- A response that blames the request, at whatever time it is sent, is one of a refusal. -/
theorem undisturbed_of_isClientError {a : Application} (h : Started a) {r : Http.Request}
    {after : List Event} {response : Http.Response}
    (hresponse : .responded response ∈ ((a.step (.serve r)).run after).outcomes a.nextJob)
    (herror : response.IsClientError) : Undisturbed a (a.step (.serve r)) := by
  cases hrequest : Http.Handler.ofRequest r with
  | error refusal =>
      apply undisturbed_of_effects
      rw [effects, hrequest]
  | ok handler =>
      have hperformed : a.step (.serve r) = a.perform (r.method == .head) handler := by
        rw [step, serve, hrequest]
      rw [hperformed] at hresponse
      have hanswers := (answersWith_perform h (r.method == .head) handler).run after
      have hlow : response.status < 400 := hanswers.outcomes _ hresponse response rfl
      exact absurd herror.1 (by omega)

theorem ofRequest_of_allows {r : Http.Request} {route : Http.Route}
    (hpath : Http.Route.ofPath? r.target.path = some route)
    (hmethod : route.allows r.method = true) :
    Http.Handler.ofRequest r = Http.Handler.ofRoute r route := by
  rw [Http.Handler.ofRequest, hpath]
  exact if_pos hmethod

/-- The paths that are read without an effect. -/
def quietPaths : List String := ["/health", "/api/page", "/api/updates/stream"]

theorem effects_of_quiet (a : Application) {r : Http.Request} (hget : r.method = .get)
    (hpath : r.target.path ∈ quietPaths) : a.effects (.serve r) = [] := by
  obtain ⟨method, ⟨origin, path, query⟩, contentType, body⟩ := r
  obtain rfl : method = .get := hget
  have hpaths : path = "/health" ∨ path = "/api/page" ∨ path = "/api/updates/stream" := by
    simpa [quietPaths] using hpath
  rcases hpaths with rfl | rfl | rfl <;> rfl

theorem serveWith_root (a : Application) (assets? : Option Http.AssetDirectory)
    {r : Http.Request} (hget : r.method = .get) (hpath : r.target.path = "/") :
    a.serveWith assets? r = a.servePage.2.respond false a.servePage.1 := by
  obtain ⟨method, ⟨origin, path, query⟩, contentType, body⟩ := r
  obtain rfl : method = .get := hget
  obtain rfl : path = "/" := hpath
  have hserved : a.serve ⟨.get, ⟨origin, "/", query⟩, contentType, body⟩ =
      a.servePage.2.respond false a.servePage.1 := rfl
  cases assets? with
  | none => exact hserved
  | some directory =>
      have hasset : Http.assetPath? ⟨origin, "/", query⟩ = none := by simp [Http.assetPath?]
      rw [serveWith, serveWithAssets, hasset]
      exact hserved

/-- A request over HTTP that is answered with a client error has had no effect, and one that is
refused is answered with such an error at once. Reading has no effect either, except that the page
takes the alerts that it shows. -/
theorem refused_request_changes_nothing (settings : Settings) (sizes : Sizes)
    (before : List Event) (assets? : Option Http.AssetDirectory) (r : Http.Request) :
    let a := (ofSettings settings sizes).run before
    let b := a.serveWith assets? r
    (∀ after response, .responded response ∈ (b.run after).outcomes a.nextJob →
      response.IsClientError → Undisturbed a b) ∧
    (∀ refusal, Http.Handler.ofRequest r = .error refusal →
      ∃ response, (a.serve r).outcomes a.nextJob = [.responded response] ∧
        response.IsClientError) ∧
    (r.method = .get → r.target.path ∈ quietPaths → Undisturbed a b) ∧
    (r.method = .get → r.target.path = "/" →
      Undisturbed a { b with alerts := a.alerts } ∧ b.alerts = a.alerts.drain.2) := by
  intro a b
  have hstarted : Started a := started_run settings sizes before
  refine ⟨?_, fun refusal => outcomes_serve_refused hstarted, ?_, ?_⟩
  · intro after response hresponse herror
    rcases a.serveWith_cases assets? r with hserved | ⟨response', hserved⟩
    · rw [show b = _ from hserved] at hresponse ⊢
      exact undisturbed_of_isClientError hstarted hresponse herror
    · rw [show b = _ from hserved]
      exact undisturbed_respond a _ response'
  · intro hget hpath
    rcases a.serveWith_cases assets? r with hserved | ⟨response', hserved⟩
    · rw [show b = _ from hserved]
      exact undisturbed_of_effects (a.effects_of_quiet hget hpath)
    · rw [show b = _ from hserved]
      exact undisturbed_respond a _ response'
  · intro hget hpath
    rw [show b = _ from a.serveWith_root assets? hget hpath]
    exact ⟨undisturbed_of_withoutJobs rfl, rfl⟩

/-- The alert of an earlier input outlives a command that the detector does not have. -/
theorem unknown_command_changes_nothing :
    let a := (ofSettings {} {}).run [.refuse (.empty .exposure)]
    let r : Http.Request := { method := .post, target := ⟨"", "/detector/command/explode", ""⟩ }
    Http.Handler.ofRequest r = .error (.unknownAction "explode") ∧
      Undisturbed a (a.serveWith none r) := by
  intro a r
  have hroute : Http.Route.ofPath? r.target.path = some (.action "explode") := by decide +kernel
  have hrefused : Http.Handler.ofRequest r = .error (.unknownAction "explode") :=
    (ofRequest_of_allows hroute rfl).trans rfl
  obtain ⟨hundisturbed, hanswered, -⟩ := refused_request_changes_nothing {} {} _ none r
  obtain ⟨response, hresponse, herror⟩ := hanswered _ hrefused
  refine ⟨hrefused, hundisturbed [] response ?_ herror⟩
  exact hresponse ▸ List.mem_singleton_self _

end Application

end DetectorDashboard
