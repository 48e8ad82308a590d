import DetectorDashboard.Proofs.CallLog
import DetectorDashboard.Proofs.Numbering

/-! The calls of a run with their purposes. The log of calls does not say why a call was made, and a
call that is answered or abandoned is no longer pending under its purpose; what an event sends is
therefore noted as it happens: the calls that are pending afterwards under new numbers. -/

namespace DetectorDashboard

/-- The endpoint that the poller asks, if a call is one of the poller's. -/
def Purpose.polled? : Purpose → Option Endpoint
  | .poll endpoint _ => some endpoint
  | _ => none

namespace Effect

def polled? : Effect → Option Endpoint
  | .ask endpoint none => some endpoint
  | _ => none

/-- The call that an effect sends. -/
def sent? (a : Application) : Effect → Option PendingCall
  | .ask endpoint job =>
      some ⟨a.calls.size, ⟨.get, endpoint.path a.dashboard.paths, none⟩,
        .ask endpoint (a.dashboard.gates endpoint).next job⟩
  | .write request job =>
      some ⟨a.calls.size, ⟨.put, request.path, request.body⟩, .write job⟩
  | _ => none

/-- What an effect does to the calls that are pending already, while some timers are running. -/
def keep (timers : List PollTimer) : Effect → List PendingCall → List PendingCall
  | .close id, pending => pending.filter (·.id ≠ id)
  | .abandonPolls, pending => pending.map (Application.abandonPoll timers)
  | _, pending => pending

theorem call_sent? (a : Application) (effect : Effect) :
    (effect.sent? a).map (·.call) = effect.call? a.dashboard.paths := by
  cases effect <;> rfl

theorem polled?_sent? (a : Application) (effect : Effect) :
    (effect.sent? a).bind (·.purpose.polled?) = effect.polled? := by
  cases effect with
  | ask endpoint job => cases job <;> rfl
  | _ => rfl

theorem id_sent? {a : Application} {effect : Effect} {p : PendingCall}
    (hp : effect.sent? a = some p) : p.id = a.calls.size := by
  cases effect <;> cases hp <;> rfl

/-- A poll is a request for the status of the endpoint. -/
theorem call_of_polled? {a : Application} {effect : Effect} {p : PendingCall}
    (hp : effect.sent? a = some p) {e : Endpoint} (hpoll : p.purpose.polled? = some e) :
    p.call = ⟨.get, e.path a.dashboard.paths, none⟩ := by
  cases effect with
  | ask endpoint job =>
      obtain rfl := Option.some.inj hp
      cases job with
      | none => rw [← Option.some.inj hpoll]
      | some job => cases hpoll
  | write request job =>
      obtain rfl := Option.some.inj hp
      cases hpoll
  | _ => cases hp

end Effect

namespace Application

/-- The pending calls with numbers from `n` on. -/
def pendingFrom (a : Application) (n : Nat) : List PendingCall :=
  a.pending.filter (n ≤ ·.id)

/-- The calls that an event sends. -/
def sent (a : Application) (event : Event) : List PendingCall :=
  (a.step event).pendingFrom a.calls.size

/-- The endpoints that the poller asks as an event happens. -/
def polls (a : Application) : Event → List Endpoint
  | .startPolling => ((a.poller.start a.clock).fire a.clock).1
  | .stall time => (a.poller.fire (a.clock + time)).1
  | _ => []

def sentAll (a : Application) : List Effect → List PendingCall
  | [] => []
  | effect :: rest => (effect.sent? a).toList ++ (a.enact effect).sentAll rest

theorem pending_enact (a : Application) (effect : Effect) :
    (a.enact effect).pending =
      effect.keep a.poller.timers a.pending ++ (effect.sent? a).toList := by
  cases effect with
  | ask endpoint job => rfl
  | write request job => rfl
  | render now seq response =>
      simp only [enact, apply]
      cases a.dashboard.accept? now seq response <;> exact (List.append_nil _).symm
  | enter fragment =>
      simp only [enact, enter, publish]
      exact (List.append_nil _).symm
  | _ => exact (List.append_nil _).symm

theorem polled?_sentAll (a : Application) (effects : List Effect) :
    (a.sentAll effects).filterMap (·.purpose.polled?) = effects.filterMap (·.polled?) := by
  induction effects generalizing a with
  | nil => rfl
  | cons effect rest ih =>
      rw [sentAll, List.filterMap_append, ih, List.filterMap_cons, ← Effect.polled?_sent? a]
      cases effect.sent? a with
      | none => rfl
      | some p =>
          simp only [Option.toList_some, List.filterMap_cons, List.filterMap_nil, Option.bind_some]
          cases p.purpose.polled? <;> rfl

/-- Polls are sent to the paths of their endpoints. -/
theorem sentAll_ask (a : Application) (endpoints : List Endpoint) :
    (a.sentAll (endpoints.map (.ask · none))).map (fun p => (p.purpose.polled?, p.call)) =
      endpoints.map fun e => (some e, ⟨.get, e.path a.dashboard.paths, none⟩) := by
  induction endpoints generalizing a with
  | nil => rfl
  | cons endpoint rest ih =>
      have hpaths := paths_enact a (show (Effect.ask endpoint none).isRender = false from rfl)
      have hrest := ih (a.enact (.ask endpoint none))
      rw [hpaths] at hrest
      exact congrArg (_ :: ·) hrest

/-! ### The numbers of status requests -/

/-- A status request gets the next number of its endpoint. -/
theorem seq_sent? {a : Application} {effect : Effect} {p : PendingCall}
    (hp : effect.sent? a = some p) {e : Endpoint} {seq : Nat}
    (hseq : p.purpose.request? = some (e, seq)) :
    seq = (a.dashboard.gates e).next ∧ seq < ((a.enact effect).dashboard.gates e).next := by
  cases effect with
  | ask endpoint job =>
      obtain rfl := Option.some.inj hp
      rw [Purpose.request?_ask] at hseq
      obtain ⟨rfl, rfl⟩ := Prod.mk.inj (Option.some.inj hseq)
      refine ⟨rfl, ?_⟩
      change _ < ((a.dashboard.issue endpoint).2.gates endpoint).next
      rw [Dashboard.next_issue, if_pos rfl]
      exact Nat.lt_succ_self _
  | write request job =>
      obtain rfl := Option.some.inj hp
      cases hseq
  | _ => cases hp

theorem next_le_of_mem_sentAll {a : Application} {effects : List Effect} {p : PendingCall}
    (hp : p ∈ a.sentAll effects) {e : Endpoint} {seq : Nat}
    (hseq : p.purpose.request? = some (e, seq)) : (a.dashboard.gates e).next ≤ seq := by
  induction effects generalizing a with
  | nil => cases hp
  | cons effect rest ih =>
      rcases List.mem_append.mp hp with hp | hp
      · exact Nat.le_of_eq (seq_sent? (Option.mem_toList.mp hp) hseq).1.symm
      · exact Nat.le_trans (next_le_next_enact a effect e) (ih hp)

/-! ### The log of a run -/

/-- A log says what every call was made for. It lists all calls ever made, numbered from zero, and a
pending call stands in it, unless that is a poll which has been abandoned since. A poll asks for the
status of its endpoint, and every status request has a number that its gate has given. -/
structure Logged (a : Application) (log : List PendingCall) : Prop where
  ids : log.map (·.id) = List.range a.calls.size
  calls : log.map (·.call) = a.calls.toList
  pending : ∀ q ∈ a.pending, ∃ p ∈ log, q = p ∨ q = p.abandoned
  polls : ∀ p ∈ log, ∀ e, p.purpose.polled? = some e →
    ∃ paths, p.call = ⟨.get, e.path paths, none⟩
  seq_lt : ∀ p ∈ log, ∀ e seq, p.purpose.request? = some (e, seq) →
    seq < (a.dashboard.gates e).next

namespace Logged

variable {a : Application} {log : List PendingCall}

theorem ofSettings (settings : Settings) (sizes : Sizes) :
    Logged (.ofSettings settings sizes) [] :=
  ⟨rfl, rfl, nofun, nofun, nofun⟩

theorem id_lt (h : Logged a log) {p : PendingCall} (hp : p ∈ log) : p.id < a.calls.size := by
  rw [← List.mem_range, ← h.ids]
  exact List.mem_map_of_mem hp

theorem pending_id_lt (h : Logged a log) {q : PendingCall} (hq : q ∈ a.pending) :
    q.id < a.calls.size := by
  obtain ⟨p, hp, hlogged⟩ := h.pending q hq
  have hid : q.id = p.id := by
    rcases hlogged with rfl | rfl <;> rfl
  rw [hid]
  exact h.id_lt hp

theorem eq_of_id_eq (h : Logged a log) {p q : PendingCall} (hp : p ∈ log) (hq : q ∈ log)
    (hid : p.id = q.id) : p = q :=
  List.inj_on_of_nodup_map (h.ids ▸ List.nodup_range) hp hq hid

/-- What is kept of the pending calls stands in the log. -/
theorem keep (h : Logged a log) (effect : Effect) :
    ∀ q ∈ effect.keep a.poller.timers a.pending, ∃ p ∈ log, q = p ∨ q = p.abandoned := by
  cases effect with
  | close id => exact fun q hq => h.pending q (List.mem_of_mem_filter hq)
  | abandonPolls =>
      refine List.forall_mem_map.mpr fun q hq => ?_
      obtain ⟨p, hp, hlogged⟩ := h.pending q hq
      rcases abandonPoll_eq a.poller.timers q with hsame | ⟨-, hgone⟩
      · exact ⟨p, hp, hsame.symm ▸ hlogged⟩
      · refine ⟨p, hp, .inr (hgone.trans ?_)⟩
        rcases hlogged with rfl | rfl <;> rfl
  | _ => exact h.pending

theorem enact (h : Logged a log) (effect : Effect) :
    Logged (a.enact effect) (log ++ (effect.sent? a).toList) := by
  have hcalls := calls_enact a effect
  have hpending := pending_enact a effect
  have hgates := next_le_next_enact a effect
  have hkeep := h.keep effect
  have hold : ∀ p ∈ log, ∀ e seq, p.purpose.request? = some (e, seq) →
      seq < ((a.enact effect).dashboard.gates e).next :=
    fun p hp e seq hseq => Nat.lt_of_lt_of_le (h.seq_lt p hp e seq hseq) (hgates e)
  rw [← Effect.call_sent?] at hcalls
  cases hsent : effect.sent? a with
  | none =>
      simp only [hsent, Option.map_none, Option.toList_none, List.append_nil] at hcalls hpending ⊢
      have hsize : (a.enact effect).calls = a.calls := Array.toList_inj.mp hcalls
      exact ⟨hsize ▸ h.ids, hsize ▸ h.calls, hpending ▸ hkeep, h.polls, hold⟩
  | some p =>
      simp only [hsent, Option.map_some, Option.toList_some] at hcalls hpending ⊢
      have hsize : (a.enact effect).calls = a.calls.push p.call :=
        Array.toList_inj.mp (hcalls.trans Array.toList_push.symm)
      refine ⟨?_, ?_, ?_, ?_, ?_⟩
      · rw [hsize, Array.size_push, List.range_succ, List.map_append, h.ids, List.map_singleton,
          Effect.id_sent? hsent]
      · rw [hcalls, List.map_append, h.calls, List.map_singleton]
      · rw [hpending]
        refine List.forall_mem_append.mpr ⟨fun q hq => ?_, List.forall_mem_singleton.mpr ?_⟩
        · obtain ⟨p', hp', hq⟩ := hkeep q hq
          exact ⟨p', List.mem_append_left _ hp', hq⟩
        · exact ⟨p, List.mem_append_right _ (List.mem_singleton_self p), .inl rfl⟩
      · refine List.forall_mem_append.mpr ⟨h.polls, List.forall_mem_singleton.mpr ?_⟩
        exact fun e hpoll => ⟨_, Effect.call_of_polled? hsent hpoll⟩
      · refine List.forall_mem_append.mpr ⟨hold, List.forall_mem_singleton.mpr ?_⟩
        exact fun e seq hseq => (seq_sent? hsent hseq).2

theorem enactAll (h : Logged a log) (effects : List Effect) :
    Logged (a.enactAll effects) (log ++ a.sentAll effects) := by
  induction effects generalizing a log with
  | nil => rwa [sentAll, List.append_nil]
  | cons effect rest ih =>
      rw [sentAll, ← List.append_assoc]
      exact ih (h.enact effect)

end Logged

/-! ### What an event sends -/

theorem pendingFrom_enact {a : Application} {effect : Effect} {n : Nat} (hn : n ≤ a.calls.size)
    (habandon : effect ≠ .abandonPolls) (hclose : ∀ id, effect = .close id → id < n) :
    (a.enact effect).pendingFrom n = a.pendingFrom n ++ (effect.sent? a).toList := by
  have hkeep : (effect.keep a.poller.timers a.pending).filter (n ≤ ·.id) = a.pendingFrom n := by
    cases effect with
    | close id =>
        have hid := hclose id rfl
        simp only [Effect.keep, List.filter_filter, pendingFrom]
        refine List.filter_congr fun p _ => ?_
        rw [Bool.and_eq_left_iff_imp]
        simp only [decide_eq_true_eq]
        omega
    | abandonPolls => exact absurd rfl habandon
    | _ => rfl
  have hsent : (effect.sent? a).toList.filter (n ≤ ·.id) = (effect.sent? a).toList := by
    refine List.filter_eq_self.mpr fun p hp => ?_
    rw [Effect.id_sent? (Option.mem_toList.mp hp)]
    exact decide_eq_true hn
  rw [pendingFrom, pending_enact, List.filter_append, hkeep, hsent]

theorem size_le_size_enact (a : Application) (effect : Effect) :
    a.calls.size ≤ (a.enact effect).calls.size := by
  rw [← Array.length_toList, ← Array.length_toList, calls_enact, List.length_append]
  exact Nat.le_add_right _ _

theorem pendingFrom_enactAll {a : Application} {effects : List Effect} {n : Nat}
    (hn : n ≤ a.calls.size)
    (h : ∀ effect ∈ effects, effect ≠ .abandonPolls ∧ ∀ id, effect = .close id → id < n) :
    (a.enactAll effects).pendingFrom n = a.pendingFrom n ++ a.sentAll effects := by
  induction effects generalizing a with
  | nil => exact (List.append_nil _).symm
  | cons effect rest ih =>
      obtain ⟨habandon, hclose⟩ := h effect List.mem_cons_self
      have hsize := Nat.le_trans hn (size_le_size_enact a effect)
      rw [enactAll_cons, ih hsize fun e he => h e (List.mem_cons_of_mem _ he),
        pendingFrom_enact hn habandon hclose, sentAll, List.append_assoc]

namespace Logged

variable {a : Application} {log : List PendingCall}

theorem pendingFrom_eq_nil (h : Logged a log) : a.pendingFrom a.calls.size = [] := by
  refine List.filter_eq_nil_iff.mpr fun p hp => ?_
  have := h.pending_id_lt hp
  simpa using this

/-- An event sends the calls of its effects. -/
theorem sent_eq (h : Logged a log) (event : Event) :
    a.sent event = a.sentAll (a.effects event) := by
  by_cases hstop : event = .stopPolling
  · subst hstop
    refine List.filter_eq_nil_iff.mpr (List.forall_mem_map.mpr fun p hp => ?_)
    have := h.pending_id_lt hp
    simpa using this
  · have hspare : ∀ effect ∈ a.effects event,
        effect ≠ .abandonPolls ∧ ∀ id, effect = .close id → id < a.calls.size := by
      intro effect heffect
      cases mayHave_of_mem_effects effect heffect with
      | abandonPolls => exact absurd rfl hstop
      | close p hp =>
          refine ⟨nofun, fun id hid => ?_⟩
          cases hid
          exact h.pending_id_lt hp
      | _ => exact ⟨nofun, nofun⟩
    refine step_of_enactAll (P := fun b => b.pendingFrom a.calls.size =
      a.sentAll (a.effects event)) (fun _ => Iff.rfl) ?_
    rw [pendingFrom_enactAll (Nat.le_refl _) hspare, h.pendingFrom_eq_nil, List.nil_append]

theorem step (h : Logged a log) (event : Event) : Logged (a.step event) (log ++ a.sent event) := by
  rw [h.sent_eq]
  have hall := h.enactAll (a.effects event)
  have hjobs (b : Application) (log : List PendingCall) : Logged b.withoutJobs log ↔ Logged b log :=
    ⟨fun h => ⟨h.1, h.2, h.3, h.4, h.5⟩, fun h => ⟨h.1, h.2, h.3, h.4, h.5⟩⟩
  exact step_of_enactAll (P := fun b => Logged b (log ++ a.sentAll (a.effects event)))
    (fun b => hjobs b _) hall

/-- The polls among the calls that an event sends are those for which the timers are due. -/
theorem polled?_sent (h : Logged a log) (event : Event) :
    (a.sent event).filterMap (·.purpose.polled?) = a.polls event := by
  have htick (poller : Poller) (clock : Nat) :
      (tickEffects poller clock).filterMap (·.polled?) = (poller.fire clock).1 := by
    rw [tickEffects, List.filterMap_cons_none rfl, List.filterMap_map]
    exact List.filterMap_some
  have hother (hstart : event ≠ .startPolling) (hstall : ∀ time, event ≠ .stall time) :
      (a.effects event).filterMap (·.polled?) = [] := by
    refine List.filterMap_eq_nil_iff.mpr fun effect heffect => ?_
    cases mayHave_of_mem_effects effect heffect with
    | firstPoll endpoint => exact absurd rfl hstart
    | poll time endpoint => exact absurd rfl (hstall time)
    | _ => rfl
  rw [h.sent_eq, polled?_sentAll]
  cases event with
  | startPolling => exact htick _ _
  | stall time => exact htick _ _
  | _ => exact hother (fun h => by cases h) (fun time h => by cases h)

end Logged

theorem logged_run (settings : Settings) (sizes : Sizes) (events : List Event) :
    Logged ((ofSettings settings sizes).run events)
      (along sent (ofSettings settings sizes) events) :=
  along_induction (P := Logged) events _ [] (fun event _ _ _ h => h.step event)
    (.ofSettings settings sizes)

end Application

end DetectorDashboard
