import Mathlib.Data.List.MinMax
import DetectorDashboard.Proofs.LastResponses
import DetectorDashboard.Proofs.Numbering

/-! Last asked wins. The page shows, for each endpoint, the answer to the request that was made last
among those whose answer could be read, in whatever order the answers came. Failures of later
requests do not stand in the way of earlier successes, since a gate moves only when a response is
shown. -/

namespace DetectorDashboard

namespace Resolution

/-- The endpoint that was asked, if the call was a status request that someone waited for. -/
def endpoint? (r : Resolution) : Option Endpoint :=
  r.purpose.request?.map (·.1)

/-- The number of the request at the gate of its endpoint. -/
def seq? (r : Resolution) : Option Nat :=
  r.purpose.request?.map (·.2)

/-- The response that the answer is, if it is one of the endpoint that was asked. -/
def response? (r : Resolution) : Option StatusResponse :=
  match r.endpoint?, r.reply with
  | some endpoint, .ok body => (StatusResponse.decode endpoint body).toOption
  | _, _ => none

end Resolution

/-- Among the requests to an endpoint whose answer was a response, the one that was made last. -/
def newest? (resolved : List Resolution) (e : Endpoint) : Option Resolution :=
  (resolved.filter fun r => r.endpoint? = some e ∧ r.response?.isSome).argmax (·.id)

/-- The response to that request. -/
def latest? (resolved : List Resolution) (e : Endpoint) : Option StatusResponse :=
  (newest? resolved e).bind (·.response?)

theorem mem_of_newest? {resolved : List Resolution} {e : Endpoint} {r : Resolution}
    (h : newest? resolved e = some r) :
    r ∈ resolved ∧ r.endpoint? = some e ∧ r.response?.isSome := by
  have hmem := List.mem_filter.mp (List.argmax_mem h)
  exact ⟨hmem.1, of_decide_eq_true hmem.2⟩

theorem request?_of_newest? {resolved : List Resolution} {e : Endpoint} {m : Resolution}
    (h : newest? resolved e = some m) : ∃ n, m.purpose.request? = some (e, n) := by
  obtain ⟨-, he, -⟩ := mem_of_newest? h
  obtain ⟨⟨e, n⟩, hn, rfl⟩ := Option.map_eq_some_iff.mp he
  exact ⟨n, hn⟩

/-- The newest answer belongs to the request of any answer that is a response, or to a later one. -/
theorem exists_newest?_ge {calls : Array Call} {gates : Endpoint → SequenceGate}
    {resolved : List Resolution} (h : Numbered calls gates (resolved.map (·.toPendingCall)))
    {r : Resolution} (hr : r ∈ resolved) {e : Endpoint} {n : Nat}
    (hrequest : r.purpose.request? = some (e, n)) (hresponse : r.response?.isSome) :
    ∃ m n', newest? resolved e = some m ∧ m.purpose.request? = some (e, n') ∧ n ≤ n' := by
  have hkept : r ∈ resolved.filter fun r => r.endpoint? = some e ∧ r.response?.isSome := by
    rw [List.mem_filter, Resolution.endpoint?, hrequest]
    simp [hr, hresponse]
  cases hm : newest? resolved e with
  | none =>
      rw [List.argmax_eq_none.mp hm] at hkept
      cases hkept
  | some m =>
      obtain ⟨n', hn'⟩ := request?_of_newest? hm
      refine ⟨m, n', rfl, hn', ?_⟩
      have hid := List.le_of_mem_argmax hkept hm
      have hlt := h.lt_iff_lt _ (List.mem_map_of_mem (mem_of_newest? hm).1) _
        (List.mem_map_of_mem hr) e n' n hn' hrequest
      exact Nat.le_of_not_lt fun hlater => absurd (hlt.mpr hlater) (Nat.not_lt.mpr hid)

theorem newest?_concat_of_not {resolved : List Resolution} {e : Endpoint} {r : Resolution}
    (h : ¬ (r.endpoint? = some e ∧ r.response?.isSome)) :
    newest? (resolved ++ [r]) e = newest? resolved e := by
  rw [newest?, List.filter_append, List.filter_cons_of_neg (by simpa using h), List.filter_nil,
    List.append_nil, ← newest?]

/-- An answer that came is the newest if its request was made after that of the newest before. -/
theorem newest?_concat {resolved : List Resolution} {e : Endpoint} {r : Resolution}
    (he : r.endpoint? = some e) (hresponse : r.response?.isSome) :
    newest? (resolved ++ [r]) =
      if (newest? resolved e).all (·.id < r.id) then
        Function.update (newest? resolved) e (some r)
      else newest? resolved := by
  funext e'
  by_cases heq : e' = e
  · subst heq
    have hkept : ([r].filter fun r => r.endpoint? = some e' ∧ r.response?.isSome) = [r] := by
      simp [he, hresponse]
    rw [newest?, List.filter_append, hkept, List.argmax_concat, ← newest?]
    cases hm : newest? resolved e' with
    | none => simp
    | some m => by_cases hid : m.id < r.id <;> simp [hid, hm]
  · have hother : ¬ (r.endpoint? = some e' ∧ r.response?.isSome) := fun hand =>
      heq (Option.some.inj (hand.1.symm.trans he))
    rw [newest?_concat_of_not hother]
    split
    · rw [Function.update_of_ne heq]
    · rfl

theorem latest?_of_update {resolved resolved' : List Resolution} {e : Endpoint} {r : Resolution}
    (h : newest? resolved' = Function.update (newest? resolved) e (some r)) :
    latest? resolved' = Function.update (latest? resolved) e r.response? := by
  funext e'
  rw [latest?, h]
  by_cases heq : e' = e
  · rw [heq, Function.update_self, Function.update_self, Option.bind_some]
  · rw [Function.update_of_ne heq, Function.update_of_ne heq, latest?]

theorem Schema.exists_of_map_eq_ok {α β : Type} {x : Except Schema.DecodeError α} {f : α → β}
    {y : β} (h : x.map f = .ok y) : ∃ a, x = .ok a ∧ f a = y := by
  cases x with
  | error e => cases h
  | ok a => exact ⟨a, rfl, Except.ok.inj h⟩

namespace StatusResponse

theorem decode_eq_ok_iff {e : Endpoint} {body : Json} {response : StatusResponse} :
    decode e body = .ok response ↔ decoder e body = .ok response := by
  rw [decode]
  cases decoder e body <;> simp [Except.mapError]

/-- A body of an endpoint is read as a response of that endpoint. -/
theorem endpoint_of_decode {endpoint : Endpoint} {body : Json} {response : StatusResponse}
    (h : decode endpoint body = .ok response) : response.endpoint = endpoint := by
  have hdecoder := decode_eq_ok_iff.mp h
  cases endpoint <;> obtain ⟨x, -, rfl⟩ := Schema.exists_of_map_eq_ok hdecoder <;> rfl

/-- The version that a response reports, if it is one that does. -/
def version? : StatusResponse → Option String
  | .apiVersion version => some version
  | _ => none

end StatusResponse

namespace Resolution

theorem response?_of_ok {r : Resolution} {e : Endpoint} {seq : Nat} {body : Json}
    (hrequest : r.purpose.request? = some (e, seq)) (hreply : r.reply = .ok body) :
    r.response? = (StatusResponse.decode e body).toOption := by
  simp only [response?, endpoint?, hrequest, hreply, Option.map_some]

/-- A response is the readable answer to a status request of its endpoint. -/
theorem of_response? {r : Resolution} {response : StatusResponse}
    (h : r.response? = some response) :
    ∃ seq body, r.purpose.request? = some (response.endpoint, seq) ∧ r.reply = .ok body ∧
      StatusResponse.decode response.endpoint body = .ok response := by
  cases hrequest : r.purpose.request? with
  | none => simp [response?, endpoint?, hrequest] at h
  | some request =>
      cases hreply : r.reply with
      | error failure => simp [response?, endpoint?, hrequest, hreply] at h
      | ok body =>
          rw [response?_of_ok hrequest hreply] at h
          cases hdecode : StatusResponse.decode request.1 body with
          | error e => simp [hdecode, Except.toOption] at h
          | ok response' =>
              obtain rfl : response' = response := by simpa [hdecode, Except.toOption] using h
              have hendpoint := StatusResponse.endpoint_of_decode hdecode
              exact ⟨request.2, body, by rw [hendpoint], rfl, by rw [hendpoint, hdecode]⟩

end Resolution

/-- The dashboard shows the newest of the answers that came. -/
structure Current (settings : Settings) (d : Dashboard) (resolved : List Resolution) : Prop where
  settings_eq : d.settings = settings
  shows : d.page.Shows settings.tableRows (latest? resolved)
  version_eq : d.apiVersion =
    ((latest? resolved .apiVersion).bind (·.version?)).getD settings.apiVersion
  gate_eq : ∀ e, (d.gates e).lastApplied = (newest? resolved e).bind (·.seq?)

namespace Current

variable {settings : Settings} {d : Dashboard} {resolved : List Resolution}

theorem ofSettings (settings : Settings) : Current settings (.ofSettings settings) [] where
  settings_eq := rfl
  shows := Page.shows_empty settings.tableRows
  version_eq := rfl
  gate_eq _ := rfl

theorem of_newest?_eq {resolved' : List Resolution} (h : Current settings d resolved)
    (heq : newest? resolved' = newest? resolved) : Current settings d resolved' := by
  have hlatest : latest? resolved' = latest? resolved :=
    funext fun e => by rw [latest?, heq, latest?]
  exact ⟨h.settings_eq, hlatest ▸ h.shows, hlatest ▸ h.version_eq, heq ▸ h.gate_eq⟩

/-- An answer that is no response changes nothing. -/
theorem concat_of_none (h : Current settings d resolved) {r : Resolution}
    (hr : r.response? = none) : Current settings d (resolved ++ [r]) :=
  h.of_newest?_eq (funext fun _ => newest?_concat_of_not (by simp [hr]))

/-- The gate lets a response through exactly if its request was made after that of the newest
response before. -/
theorem isNewer_eq (h : Current settings d resolved) {r : Resolution} {e : Endpoint} {seq : Nat}
    (horder : ∀ m ∈ resolved, ∀ n, m.purpose.request? = some (e, n) → (m.id < r.id ↔ n < seq)) :
    (d.gates e).isNewer seq = (newest? resolved e).all (·.id < r.id) := by
  rw [SequenceGate.isNewer, h.gate_eq]
  cases hnewest : newest? resolved e with
  | none => rfl
  | some m =>
      obtain ⟨hm, he, -⟩ := mem_of_newest? hnewest
      obtain ⟨⟨e', n⟩, hn, rfl⟩ := Option.map_eq_some_iff.mp he
      have hlt := horder m hm n hn
      simp [Resolution.seq?, hn, hlt]

theorem concat_of_response (h : Current settings d resolved) (now : Timestamp) {r : Resolution}
    {response : StatusResponse} {seq : Nat} (hr : r.response? = some response)
    (hrequest : r.purpose.request? = some (response.endpoint, seq))
    (horder : ∀ m ∈ resolved, ∀ n, m.purpose.request? = some (response.endpoint, n) →
      (m.id < r.id ↔ n < seq)) :
    Current settings ((d.accept? now seq response).getD d) (resolved ++ [r]) := by
  have hendpoint : r.endpoint? = some response.endpoint := by
    simp [Resolution.endpoint?, hrequest]
  have hnewest : newest? (resolved ++ [r]) = _ :=
    newest?_concat hendpoint (Option.isSome_of_eq_some hr)
  rw [← h.isNewer_eq horder] at hnewest
  unfold Dashboard.accept? SequenceGate.accept?
  by_cases hgate : (d.gates response.endpoint).isNewer seq
  · rw [if_pos hgate, Option.map_some, Option.getD_some]
    rw [if_pos hgate] at hnewest
    have hlatest := latest?_of_update hnewest
    rw [hr] at hlatest
    refine ⟨h.settings_eq, ?_, ?_, fun e => ?_⟩
    · rw [hlatest, h.settings_eq]
      exact (h.shows.render response).touch now
    · rw [hlatest]
      cases response with
      | apiVersion version => rfl
      | _ => exact h.version_eq
    · rw [hnewest]
      by_cases he : e = response.endpoint
      · simp [Dashboard.setGate, he, Resolution.seq?, hrequest]
      · simpa [Dashboard.setGate, he] using h.gate_eq e
  · rw [if_neg hgate, Option.map_none, Option.getD_none]
    rw [if_neg hgate] at hnewest
    exact h.of_newest?_eq hnewest

end Current

namespace Application

theorem lastApplied_issue (d : Dashboard) (endpoint e : Endpoint) :
    ((d.issue endpoint).2.gates e).lastApplied = (d.gates e).lastApplied := by
  simp only [Dashboard.issue, Dashboard.setGate, SequenceGate.issue]
  split
  · rename_i he
    rw [he]
  · rfl

theorem current_enact {settings : Settings} {a : Application} {resolved : List Resolution}
    (h : Current settings a.dashboard resolved) {effect : Effect}
    (hrender : effect.isRender = false) :
    Current settings (a.enact effect).dashboard resolved := by
  cases effect with
  | render now seq response => exact nomatch hrender
  | ask endpoint job =>
      exact ⟨h.settings_eq, h.shows, h.version_eq, fun e =>
        (lastApplied_issue a.dashboard endpoint e).trans (h.gate_eq e)⟩
  | enter fragment =>
      simp only [enact, enter, publish, Dashboard.navigate]
      exact ⟨h.settings_eq, h.shows, h.version_eq, h.gate_eq⟩
  | _ => exact h

theorem current_enactAll {settings : Settings} {a : Application} {resolved : List Resolution}
    (h : Current settings a.dashboard resolved) {effects : List Effect}
    (hrender : ∀ effect ∈ effects, effect.isRender = false) :
    Current settings (a.enactAll effects).dashboard resolved :=
  enactAll_induction (P := fun a => Current settings a.dashboard resolved) effects
    (fun effect heffect _ h => current_enact h (hrender effect heffect)) h

theorem isRender_of_mem_answerEffects (now : Timestamp) {r : Resolution}
    (hr : r.response? = none) :
    ∀ effect ∈ answerEffects now r.reply r.purpose, effect.isRender = false := by
  cases hreply : r.reply with
  | error failure => cases r.purpose <;> simp [answerEffects, Effect.isRender]
  | ok body =>
      cases hrequest : r.purpose.request? with
      | none => simp [answerEffects, hrequest]
      | some request =>
          rw [Resolution.response?_of_ok hrequest hreply] at hr
          cases hdecode : StatusResponse.decode request.1 body with
          | error e => simp [answerEffects, hrequest, hdecode]
          | ok response => simp [hdecode, Except.toOption] at hr

theorem answerEffects_of_response? (now : Timestamp) {r : Resolution} {response : StatusResponse}
    (h : r.response? = some response) :
    ∃ seq, r.purpose.request? = some (response.endpoint, seq) ∧
      answerEffects now r.reply r.purpose = [.render now seq response] := by
  obtain ⟨seq, body, hrequest, hreply, hdecode⟩ := Resolution.of_response? h
  exact ⟨seq, hrequest, by simp only [answerEffects, hreply, hrequest, hdecode]⟩

theorem dashboard_render (a : Application) (now : Timestamp) (seq : Nat)
    (response : StatusResponse) : (a.enact (.render now seq response)).dashboard =
      (a.dashboard.accept? now seq response).getD a.dashboard := by
  simp only [enact, apply]
  cases a.dashboard.accept? now seq response <;> rfl

theorem current_answer {settings : Settings} {a : Application} {resolved : List Resolution}
    {p : PendingCall} (hp : p ∈ a.known resolved)
    (hnumbered : Numbered a.calls a.dashboard.gates (a.known resolved))
    (h : Current settings a.dashboard resolved) (now : Timestamp) (reply : Reply) :
    Current settings
      ((a.enact (.close p.id)).enactAll (answerEffects now reply p.purpose)).dashboard
      (resolved ++ [⟨p, reply⟩]) := by
  cases hr : Resolution.response? ⟨p, reply⟩ with
  | none =>
      have hclosed : Current settings (a.enact (.close p.id)).dashboard _ :=
        current_enact (h.concat_of_none hr) rfl
      exact current_enactAll hclosed (isRender_of_mem_answerEffects now hr)
  | some response =>
      obtain ⟨seq, hrequest, heffects⟩ := answerEffects_of_response? now hr
      have hshown := h.concat_of_response now hr hrequest fun m hm n hn =>
        hnumbered.lt_iff_lt m.toPendingCall
          (List.mem_append_right _ (List.mem_map_of_mem hm)) p hp _ n seq hn hrequest
      rw [heffects, enactAll_cons, enactAll_nil, dashboard_render]
      exact hshown

theorem current_step {settings : Settings} {a : Application} {resolved : List Resolution}
    (hnumbered : Numbered a.calls a.dashboard.gates (a.known resolved))
    (h : Current settings a.dashboard resolved) (event : Event) :
    Current settings (a.step event).dashboard (resolved ++ a.resolutions event) := by
  refine step_of_enactAll (P := fun b => Current settings b.dashboard
    (resolved ++ a.resolutions event)) (fun _ => Iff.rfl) ?_
  cases event with
  | deliver now id reply =>
      simp only [effects, resolutions]
      cases hfind : a.pending.find? (·.id = id) with
      | none => simpa using h
      | some p =>
          have hp : p ∈ a.known resolved :=
            List.mem_append_left _ (List.mem_of_find?_eq_some hfind)
          have hid := List.find?_some hfind
          obtain rfl : p.id = id := of_decide_eq_true hid
          rw [enactAll_cons]
          exact current_answer hp hnumbered h now reply
  | _ =>
      rw [resolutions, List.append_nil]
      · refine current_enactAll h (isRender_of_mem_effects fun now id reply heq => ?_)
        cases heq
      · intro now id reply heq
        cases heq

/-- In every run the dashboard shows the newest of the answers that came. -/
theorem current_run (settings : Settings) (sizes : Sizes) (events : List Event) :
    Current settings ((ofSettings settings sizes).run events).dashboard
      (along resolutions (ofSettings settings sizes) events) := by
  exact (along_induction (P := fun a resolved =>
    Numbered a.calls a.dashboard.gates (a.known resolved) ∧ Current settings a.dashboard resolved)
    events _ [] (fun event _ _ _ h => ⟨numbered_step h.1 event, current_step h.1 h.2 event⟩)
    ⟨.empty, .ofSettings settings⟩).2

end Application

end DetectorDashboard
