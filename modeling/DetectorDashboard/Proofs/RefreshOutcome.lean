import DetectorDashboard.Proofs.UpdateLog

/-! What the answer to a status request does. It is shown as a whole, or nothing that is shown or
announced changes. It is shown just if it is a response of the endpoint that was asked and no answer
to a later request has been shown before. -/

namespace DetectorDashboard

/-- Nothing that is shown, announced or counted has changed. -/
structure Untouched (a b : Application) : Prop where
  dashboard_eq : b.dashboard = a.dashboard
  alerts_eq : b.alerts = a.alerts
  bus_eq : b.bus = a.bus

/-- The response to request `seq` was shown, and nothing beyond its endpoint has changed. -/
structure Refreshed (now : Timestamp) (endpoint : Endpoint) (seq : Nat) (response : StatusResponse)
    (a b : Application) : Prop where
  endpoint_eq : response.endpoint = endpoint
  log_eq : b.log = a.log ++ [.rendered endpoint seq]
  updatedAt_eq : b.dashboard.page.updatedAt = some now
  owned : ∀ id, endpoint.Owns id → b.dashboard.page.get? id =
    Page.lastCell? (response.cells a.dashboard.settings.tableRows) id
  other : ∀ id, ¬ endpoint.Owns id → b.dashboard.page.get? id = a.dashboard.page.get? id
  version_eq : endpoint ≠ .apiVersion → b.dashboard.apiVersion = a.dashboard.apiVersion
  gate_eq : b.dashboard.gates endpoint =
    { a.dashboard.gates endpoint with lastApplied := some seq }
  gates_eq : ∀ e ≠ endpoint, b.dashboard.gates e = a.dashboard.gates e
  view_eq : b.dashboard.view = a.dashboard.view
  settings_eq : b.dashboard.settings = a.dashboard.settings
  alerts_eq : b.alerts = a.alerts
  capacity_eq : b.bus.capacity = a.bus.capacity

/-- The operation that an effect is, for the gates, the view and the log. -/
def Effect.operation? : Effect → Option Operation
  | .ask endpoint _ => some (.issue endpoint)
  | .render now seq response => some (.apply now seq response)
  | .enter fragment => some (.navigate fragment)
  | .alert message => some (.alert message)
  | .takeAlerts => some .drain
  | .write .. | .close _ | .abandonPolls | .setTimers .. => none

namespace Application

/-! ### The history of a run -/

theorem log_enact (a : Application) (effect : Effect) :
    (a.enact effect).log = a.log ++ (effect.operation?.bind a.update?).toList := by
  cases effect with
  | ask endpoint job => exact log_operate a (.issue endpoint)
  | render now seq response => exact log_operate a (.apply now seq response)
  | enter fragment => exact log_operate a (.navigate fragment)
  | alert message => exact log_operate a (.alert message)
  | takeAlerts => exact log_operate a .drain
  | _ => exact (List.append_nil _).symm

theorem announced_enact {a : Application} (h : Announced a.dashboard a.log) (effect : Effect) :
    Announced (a.enact effect).dashboard (a.enact effect).log := by
  cases effect with
  | ask endpoint job => exact announced_operate h (.issue endpoint)
  | render now seq response => exact announced_operate h (.apply now seq response)
  | enter fragment => exact announced_operate h (.navigate fragment)
  | alert message => exact announced_operate h (.alert message)
  | _ => exact h

theorem announced_run (settings : Settings) (sizes : Sizes) (events : List Event) :
    let a := (ofSettings settings sizes).run events
    Announced a.dashboard a.log := by
  refine run_induction (P := fun a => Announced a.dashboard a.log) events (fun event _ a h => ?_)
    (.ofSettings settings)
  refine step_of_enactAll (P := fun b => Announced b.dashboard b.log) (fun _ => Iff.rfl) ?_
  exact enactAll_induction (P := fun b => Announced b.dashboard b.log) _
    (fun effect _ _ h => announced_enact h effect) h

theorem mem_renderedSeqs_enact {a : Application} {effect : Effect} {e : Endpoint} {seq : Nat}
    (h : seq ∈ renderedSeqs e (a.enact effect).log) :
    seq ∈ renderedSeqs e a.log ∨
      ∃ now response, effect = .render now seq response ∧ response.endpoint = e := by
  rw [log_enact, renderedSeqs, List.filterMap_append] at h
  refine (List.mem_append.mp h).imp id fun hnew => ?_
  obtain ⟨u, hu, hseq⟩ := List.mem_filterMap.mp hnew
  cases effect with
  | render now n response =>
      have hrendered : response.endpoint = e ∧ n = seq := by
        simp only [Effect.operation?, Option.bind_some, update?] at hu
        split at hu
        · obtain rfl := List.mem_singleton.mp hu
          simpa [Update.seq?] using hseq
        · cases hu
      obtain ⟨he, rfl⟩ := hrendered
      exact ⟨now, response, rfl, he⟩
  | enter fragment | alert message =>
      obtain rfl := List.mem_singleton.mp hu
      cases hseq
  | _ => cases hu

theorem mem_renderedSeqs_enactAll {a : Application} {effects : List Effect} {e : Endpoint}
    {seq : Nat} (h : seq ∈ renderedSeqs e (a.enactAll effects).log) :
    seq ∈ renderedSeqs e a.log ∨
      ∃ now response, .render now seq response ∈ effects ∧ response.endpoint = e := by
  induction effects generalizing a with
  | nil => exact .inl h
  | cons effect rest ih =>
      rcases ih h with h | ⟨now, response, hmem, he⟩
      · refine (mem_renderedSeqs_enact h).imp id ?_
        rintro ⟨now, response, rfl, he⟩
        exact ⟨now, response, List.mem_cons_self, he⟩
      · exact .inr ⟨now, response, List.mem_cons_of_mem _ hmem, he⟩

theorem request?_of_render_mem_answerEffects {now now' : Timestamp} {reply : Reply}
    {purpose : Purpose} {seq : Nat} {response : StatusResponse}
    (h : .render now' seq response ∈ answerEffects now reply purpose) :
    purpose.request? = some (response.endpoint, seq) := by
  cases reply with
  | error failure => cases purpose <;> simp [answerEffects] at h
  | ok body =>
      cases hrequest : purpose.request? with
      | none => simp [answerEffects, hrequest] at h
      | some request =>
          cases hdecode : StatusResponse.decode request.1 body with
          | error e => simp [answerEffects, hrequest, hdecode] at h
          | ok decoded =>
              have heffect : now' = now ∧ seq = request.2 ∧ response = decoded := by
                simpa [answerEffects, hrequest, hdecode] using h
              obtain ⟨-, rfl, rfl⟩ := heffect
              rw [StatusResponse.endpoint_of_decode hdecode]

/-- What an event renders is the answer that it delivers. -/
theorem mem_renderedSeqs_step {a : Application} {event : Event} {e : Endpoint} {seq : Nat}
    (h : seq ∈ renderedSeqs e (a.step event).log) :
    seq ∈ renderedSeqs e a.log ∨
      ∃ r ∈ a.resolutions event, r.purpose.request? = some (e, seq) := by
  revert h
  refine step_of_enactAll (P := fun b => seq ∈ renderedSeqs e b.log → _) (fun _ => Iff.rfl) ?_
  intro h
  refine (mem_renderedSeqs_enactAll h).imp id ?_
  rintro ⟨now, response, hmem, rfl⟩
  cases mayHave_of_mem_effects _ hmem with
  | render now id reply seq response =>
      simp only [effects] at hmem
      cases hfind : a.pending.find? (·.id = id) with
      | none => simp [hfind] at hmem
      | some p =>
          have hanswer : .render now seq response ∈ answerEffects now reply p.purpose := by
            simpa [hfind] using hmem
          refine ⟨⟨p, reply⟩, ?_, request?_of_render_mem_answerEffects hanswer⟩
          simp [resolutions, hfind]

/-- Only the answers that came have been rendered. -/
theorem exists_resolution_of_mem_renderedSeqs (settings : Settings) (sizes : Sizes)
    (events : List Event) {e : Endpoint} {seq : Nat}
    (h : seq ∈ renderedSeqs e ((ofSettings settings sizes).run events).log) :
    ∃ r ∈ along resolutions (ofSettings settings sizes) events,
      r.purpose.request? = some (e, seq) := by
  revert h
  refine along_induction (P := fun a (resolved : List Resolution) =>
    seq ∈ renderedSeqs e a.log → ∃ r ∈ resolved, r.purpose.request? = some (e, seq))
    events _ [] (fun event _ a resolved ih h => ?_) (fun h => nomatch h)
  rcases mem_renderedSeqs_step h with hold | ⟨r, hr, hrequest⟩
  · obtain ⟨r, hr, hrequest⟩ := ih hold
    exact ⟨r, List.mem_append_left _ hr, hrequest⟩
  · exact ⟨r, List.mem_append_right _ hr, hrequest⟩

/-- A request that is still pending has not been rendered. -/
theorem notMem_renderedSeqs_of_pending {settings : Settings} {sizes : Sizes} {events : List Event}
    {p : PendingCall} (hp : p ∈ ((ofSettings settings sizes).run events).pending) {e : Endpoint}
    {seq : Nat} (hrequest : p.purpose.request? = some (e, seq)) :
    seq ∉ renderedSeqs e ((ofSettings settings sizes).run events).log := by
  intro hseq
  obtain ⟨r, hr, hr'⟩ := exists_resolution_of_mem_renderedSeqs settings sizes events hseq
  have hnumbered := numbered_run settings sizes events
  have hresolved := List.mem_map_of_mem (f := (·.toPendingCall)) hr
  have hid : p.id = r.id :=
    hnumbered.id_eq_of_request?_eq (List.mem_append_left _ hp) (List.mem_append_right _ hresolved)
      hrequest hr'
  have hnodup := hnumbered.nodup
  rw [known, List.map_append, List.nodup_append] at hnodup
  exact hnodup.2.2 p.id (List.mem_map_of_mem hp) r.id (List.mem_map_of_mem hresolved) hid

theorem find?_of_mem_pending {settings : Settings} {sizes : Sizes} {events : List Event}
    {p : PendingCall} (hp : p ∈ ((ofSettings settings sizes).run events).pending) :
    ((ofSettings settings sizes).run events).pending.find? (·.id = p.id) = some p :=
  find?_eq_of_mem (nodup_pending (numbered_run settings sizes events)) hp

/-- The response to a pending request is let through if none to a later one has been shown. -/
theorem accept?_ne_none_of_pending {settings : Settings} {sizes : Sizes} {events : List Event}
    {p : PendingCall} (hp : p ∈ ((ofSettings settings sizes).run events).pending)
    {response : StatusResponse} {seq : Nat}
    (hrequest : p.purpose.request? = some (response.endpoint, seq))
    (hlatest : ∀ m ∈ renderedSeqs response.endpoint ((ofSettings settings sizes).run events).log,
      m ≤ seq) (now : Timestamp) :
    ((ofSettings settings sizes).run events).dashboard.accept? now seq response ≠ none := by
  have hannounced := announced_run settings sizes events
  -- the request itself is pending, so that no answer to it has been shown
  have hnewer := (hannounced.isNewer_iff response.endpoint seq).mpr fun m hm =>
    lt_of_le_of_ne (hlatest m hm) fun heq =>
      notMem_renderedSeqs_of_pending hp hrequest (heq ▸ hm)
  have hgate := SequenceGate.accept?_eq_some_iff.mpr ⟨hnewer, rfl⟩
  intro hnone
  rw [Option.map_eq_none_iff.mp hnone] at hgate
  cases hgate

/-! ### One answer -/

/-- An answer is a response that the gate lets through, or it changes nothing. -/
theorem receive_cases (a : Application) (now : Timestamp) (endpoint : Endpoint) (seq : Nat)
    (reply : Reply) :
    (∃ body response d, reply = .ok body ∧ StatusResponse.decode endpoint body = .ok response ∧
      a.dashboard.accept? now seq response = some d ∧
      a.receive now endpoint seq reply =
        (.ok true, { a with dashboard := d }.publish (.rendered response.endpoint seq))) ∨
    ((a.receive now endpoint seq reply).1 ≠ .ok true ∧ (a.receive now endpoint seq reply).2 = a ∧
      ∀ body response, reply = .ok body → StatusResponse.decode endpoint body = .ok response →
        a.dashboard.accept? now seq response = none) := by
  cases reply with
  | error failure =>
      right
      refine ⟨fun h => ?_, rfl, fun body response h => ?_⟩
      · cases h
      · cases h
  | ok body =>
      simp only [receive]
      cases hdecode : StatusResponse.decode endpoint body with
      | error e =>
          right
          refine ⟨fun h => ?_, rfl, fun body' response hbody hdecode' => ?_⟩
          · cases h
          · obtain rfl := Except.ok.inj hbody
            rw [hdecode] at hdecode'
            cases hdecode'
      | ok response =>
          cases haccept : a.dashboard.accept? now seq response with
          | some d =>
              left
              refine ⟨body, response, d, rfl, hdecode, haccept, ?_⟩
              simp only [apply_of_fresh haccept]
          | none =>
              right
              simp only [apply_of_stale haccept]
              refine ⟨fun h => ?_, trivial, fun body' response' hbody hdecode' => ?_⟩
              · cases h
              · obtain rfl := Except.ok.inj hbody
                rw [hdecode] at hdecode'
                rw [← Except.ok.inj hdecode']
                exact haccept

/-- What is shown of an answer does not depend on which calls are pending. -/
theorem receive_close_fst (a : Application) (id : Nat) (now : Timestamp) (endpoint : Endpoint)
    (seq : Nat) (reply : Reply) :
    ((a.enact (.close id)).receive now endpoint seq reply).1 =
      (a.receive now endpoint seq reply).1 := by
  cases reply with
  | error failure => rfl
  | ok body =>
      simp only [receive]
      cases StatusResponse.decode endpoint body with
      | error e => rfl
      | ok response =>
          simp only [apply, enact]
          cases a.dashboard.accept? now seq response <;> rfl

theorem answerEffects_of_request? {now : Timestamp} {reply : Reply} {purpose : Purpose}
    {e : Endpoint} {seq : Nat} (h : purpose.request? = some (e, seq)) :
    answerEffects now reply purpose = answerEffects now reply (.poll e seq) := by
  cases reply with
  | ok body =>
      have hpoll : (Purpose.poll e seq).request? = some (e, seq) := rfl
      simp only [answerEffects, h, hpoll]
  | error failure =>
      cases purpose with
      | write job => cases h
      | _ => rfl

/-- Apart from the keeping of jobs, the delivery of an answer closes the call and receives the
answer. -/
theorem step_deliver_of_receive {P : Application → Prop} (hjobs : ∀ a, P a.withoutJobs ↔ P a)
    {a : Application} {p : PendingCall} (hfind : a.pending.find? (·.id = p.id) = some p)
    {e : Endpoint} {seq : Nat} (hrequest : p.purpose.request? = some (e, seq)) (now : Timestamp)
    (reply : Reply) (h : P ((a.enact (.close p.id)).receive now e seq reply).2) :
    P (a.step (.deliver now p.id reply)) := by
  refine step_of_enactAll hjobs ?_
  simp only [effects, hfind, enactAll_cons]
  rw [answerEffects_of_request? hrequest, ← receive_eq]
  exact h

theorem refreshed_of_accept? {a : Application} (id : Nat)
    (hrows : ∀ kind, ∃ n, a.dashboard.page.HasRows kind n) {now : Timestamp} {seq : Nat}
    {response : StatusResponse} {d : Dashboard}
    (haccept : a.dashboard.accept? now seq response = some d) :
    Refreshed now response.endpoint seq response a
      ({ a.enact (.close id) with dashboard := d }.publish (.rendered response.endpoint seq)) := by
  obtain ⟨gate, hgate, rfl⟩ := Option.map_eq_some_iff.mp haccept
  obtain ⟨-, rfl⟩ := SequenceGate.accept?_eq_some_iff.mp hgate
  exact {
    endpoint_eq := rfl
    log_eq := Array.toList_push
    updatedAt_eq := rfl
    owned := fun _ hid => Page.get?_render_of_owns hrows _ response hid
    other := fun _ hid => Page.get?_render_of_not_owns _ _ response hid
    version_eq := fun hne => by
      cases response with
      | apiVersion version => exact absurd rfl hne
      | _ => rfl
    gate_eq := if_pos rfl
    gates_eq := fun _ hne => if_neg hne
    view_eq := rfl
    settings_eq := rfl
    alerts_eq := rfl
    capacity_eq := rfl }

/-- The answer to a pending request is shown as a whole, which is announced once, or it changes
nothing that is shown, announced or counted. It is shown just if it is a response of the endpoint
that was asked and no answer to a later request to that endpoint has been shown. -/
theorem refresh_all_or_nothing (settings : Settings) (sizes : Sizes) (events : List Event)
    (p : PendingCall) (e : Endpoint) (seq : Nat) (now : Timestamp) (reply : Reply)
    (hp : p ∈ ((ofSettings settings sizes).run events).pending)
    (hrequest : p.purpose.request? = some (e, seq)) :
    let a := (ofSettings settings sizes).run events
    let b := a.step (.deliver now p.id reply)
    let result := (a.receive now e seq reply).1
    (result ≠ .ok true → Untouched a b) ∧
      (result = .ok true → ∃ body response, reply = .ok body ∧
        StatusResponse.decode e body = .ok response ∧ Refreshed now e seq response a b) ∧
      (result = .ok true ↔
        (∃ body response, reply = .ok body ∧ StatusResponse.decode e body = .ok response) ∧
          ∀ m ∈ renderedSeqs e a.log, m ≤ seq) := by
  intro a b result
  have hfind : a.pending.find? (·.id = p.id) = some p := find?_of_mem_pending hp
  have hannounced : Announced a.dashboard a.log := announced_run settings sizes events
  have hrows (kind : UnitKind) : ∃ n, a.dashboard.page.HasRows kind n :=
    ⟨_, (current_run settings sizes events).shows.hasRows kind⟩
  have hresult : result = ((a.enact (.close p.id)).receive now e seq reply).1 :=
    (a.receive_close_fst p.id now e seq reply).symm
  rcases (a.enact (.close p.id)).receive_cases now e seq reply with
    ⟨body, response, d, hreply, hdecode, haccept, hreceive⟩ | ⟨hne, hsame, hstale⟩
  · obtain rfl := StatusResponse.endpoint_of_decode hdecode
    rw [hreceive] at hresult
    have hrefreshed : Refreshed now response.endpoint seq response a b := by
      refine step_deliver_of_receive (P := Refreshed now response.endpoint seq response a)
        (fun c => ?_) hfind hrequest now reply ?_
      · exact ⟨fun h => { h with }, fun h => { h with }⟩
      · rw [hreceive]
        exact refreshed_of_accept? p.id hrows haccept
    obtain ⟨gate, hgate, -⟩ := Option.map_eq_some_iff.mp haccept
    have hnewer := (hannounced.isNewer_iff response.endpoint seq).mp
      (SequenceGate.accept?_eq_some_iff.mp hgate).1
    refine ⟨fun h => absurd hresult h, fun _ => ⟨body, response, hreply, hdecode, hrefreshed⟩, ?_⟩
    exact ⟨fun _ => ⟨⟨body, response, hreply, hdecode⟩, fun m hm => (hnewer m hm).le⟩,
      fun _ => hresult⟩
  · rw [← hresult] at hne
    refine ⟨fun _ => ?_, fun h => absurd h hne, fun h => absurd h hne, ?_⟩
    · refine step_deliver_of_receive (P := Untouched a)
        (fun c => ?_) hfind hrequest now reply ?_
      · exact ⟨fun h => { h with }, fun h => { h with }⟩
      · rw [hsame]
        exact ⟨rfl, rfl, rfl⟩
    · rintro ⟨⟨body, response, hreply, hdecode⟩, hlatest⟩
      obtain rfl := StatusResponse.endpoint_of_decode hdecode
      exact absurd (hstale body response hreply hdecode)
        (accept?_ne_none_of_pending hp hrequest hlatest now)

/-- Two requests for the version, the second of which is answered first. -/
theorem refresh_of_overtaken_request :
    let ask : Event := .request .apiVersion .request
    let first : Event := .deliver ⟨1, 0⟩ 0 (.ok (.object [("api", .string "1.6.0")]))
    let second : Event := .deliver ⟨0, 0⟩ 1 (.ok (.object [("api", .string "1.8.0")]))
    let a := (ofSettings {} {}).run [ask, ask]
    (a.step second).log = [.rendered .apiVersion 1] ∧
      Untouched (a.step second) ((a.step second).step first) := by
  intro ask first second a
  obtain ⟨-, hshown, hiff⟩ := refresh_all_or_nothing {} {} [ask, ask]
    ⟨1, ⟨.get, "/api", none⟩, .status .apiVersion 1 1⟩ .apiVersion 1 ⟨0, 0⟩
    (.ok (.object [("api", .string "1.8.0")])) (.tail _ (.head _)) rfl
  obtain ⟨body, response, -, -, hrefreshed⟩ :=
    hshown (hiff.mpr ⟨⟨_, .apiVersion "1.8.0", rfl, rfl⟩, fun m hm => nomatch hm⟩)
  obtain ⟨huntouched, -, hiff⟩ := refresh_all_or_nothing {} {} [ask, ask, second]
    ⟨0, ⟨.get, "/api", none⟩, .status .apiVersion 0 0⟩ .apiVersion 0 ⟨1, 0⟩
    (.ok (.object [("api", .string "1.6.0")])) (.head _) rfl
  have hlater : 1 ∈ renderedSeqs .apiVersion (a.step second).log := by
    rw [hrefreshed.log_eq]
    exact List.mem_cons_self
  refine ⟨hrefreshed.log_eq, huntouched fun hresult => ?_⟩
  have hle := (hiff.mp hresult).2 1 hlater
  omega

end Application

end DetectorDashboard
