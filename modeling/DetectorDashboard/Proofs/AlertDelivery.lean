import DetectorDashboard.Proofs.NewestAlerts
import DetectorDashboard.Proofs.ShownAlerts

/-! The way of an alert from where it is raised to the page that shows it. Alerts leave the queue in
the order in which they were raised: a request for the page takes them all, and an alert that comes
when the queue is full takes the place of the oldest. A page that is asked for by its head alone
takes the alerts too, and shows them to nobody. -/

namespace DetectorDashboard

/-- A new alert takes the place of the oldest if the queue is full, and of none otherwise. -/
theorem AlertQueue.exists_append_raise (q : AlertQueue) (message : String) :
    ∃ out, out ++ (q.raise message).pending = q.pending ++ [message] ∧
      q.pending.length ≤ (q.raise message).pending.length ∧
      (out = [] ∨ (q.raise message).pending.length = q.capacity) := by
  have hroom := q.length_le
  have hpositive := q.capacity_pos
  have hlength : (q.pending ++ [message]).length = q.pending.length + 1 := List.length_append
  rw [pending_raise, List.rtake, hlength]
  refine ⟨_, List.take_append_drop _ _, ?_, ?_⟩
  · rw [List.length_drop, hlength]
    omega
  · rcases Nat.lt_or_ge q.pending.length q.capacity with hfree | hfull
    · rw [Nat.sub_eq_zero_of_le hfree]
      exact .inl List.take_zero
    · rw [List.length_drop, hlength]
      exact .inr (by omega)

/-- What an effect does to the queue. -/
def Effect.onAlerts : Effect → AlertQueue → AlertQueue
  | .alert message, q => q.raise message
  | .takeAlerts, q => q.drain.2
  | _, q => q

namespace Application

/-- The alerts that have left the queue: all that have been raised, but for those still in it. -/
def departed (a : Application) : List String :=
  a.alertLog.take (a.alertLog.length - a.alerts.pending.length)

/-- The alerts that leave the queue as an event happens. -/
def departures (a : Application) (event : Event) : List (String × Departure) :=
  ((a.step event).departed.drop a.departed.length).map fun alert => (alert, event.departure)

theorem alerts_enact (a : Application) (effect : Effect) :
    (a.enact effect).alerts = effect.onAlerts a.alerts := by
  cases effect with
  | enter fragment =>
      simp only [enact, enter, publish]
      rfl
  | render now seq response =>
      simp only [enact, apply]
      cases a.dashboard.accept? now seq response <;> rfl
  | _ => rfl

theorem departed_eq {a : Application} {out : List String}
    (h : out ++ a.alerts.pending = a.alertLog) : a.departed = out := by
  rw [departed, ← h, List.length_append, Nat.add_sub_cancel, List.take_left]

/-- What has been raised has left the queue or is pending, in the order in which it was raised. -/
structure Queued (capacity : Nat) (a : Application) : Prop where
  departed_append : a.departed ++ a.alerts.pending = a.alertLog
  capacity_eq : a.alerts.capacity = capacity

namespace Queued

variable {capacity : Nat} {a : Application}

theorem ofSettings (settings : Settings) (sizes : Sizes) :
    Queued (max sizes.alerts 1) (.ofSettings settings sizes) :=
  ⟨rfl, rfl⟩

theorem length_le (h : Queued capacity a) : a.alerts.pending.length ≤ capacity :=
  h.capacity_eq ▸ a.alerts.length_le

/-- The queue after some of its alerts have left. -/
theorem of_append (h : Queued capacity a) {b : Application} {out : List String}
    (hcapacity : b.alerts.capacity = a.alerts.capacity)
    (hlog : a.departed ++ out ++ b.alerts.pending = b.alertLog) :
    Queued capacity b ∧ b.departed = a.departed ++ out := by
  have hdeparted := departed_eq hlog
  exact ⟨⟨hdeparted ▸ hlog, hcapacity.trans h.capacity_eq⟩, hdeparted⟩

/-- The queue after an effect that does not take the alerts: alerts leave it only if it is full, and
then it stays so. -/
theorem enact (h : Queued capacity a) {effect : Effect} (heffect : effect ≠ .takeAlerts) :
    Queued capacity (a.enact effect) ∧ a.departed <+: (a.enact effect).departed ∧
      a.alerts.pending.length ≤ (a.enact effect).alerts.pending.length ∧
      ((a.enact effect).departed = a.departed ∨
        (a.enact effect).alerts.pending.length = capacity) := by
  have hlog := alertLog_enact a effect
  have halerts := alerts_enact a effect
  have hother (halert : effect.alert? = none) (hqueue : effect.onAlerts a.alerts = a.alerts) :
      Queued capacity (a.enact effect) ∧ a.departed <+: (a.enact effect).departed ∧
        a.alerts.pending.length ≤ (a.enact effect).alerts.pending.length ∧
        ((a.enact effect).departed = a.departed ∨
          (a.enact effect).alerts.pending.length = capacity) := by
    rw [hqueue] at halerts
    have hsame : a.departed ++ [] ++ (a.enact effect).alerts.pending =
        (a.enact effect).alertLog := by
      rw [halerts, hlog, halert, List.append_nil, h.departed_append]
      exact (List.append_nil _).symm
    obtain ⟨hqueued, hdeparted⟩ := h.of_append (congrArg _ halerts) hsame
    rw [List.append_nil] at hdeparted
    exact ⟨hqueued, by rw [hdeparted], by rw [halerts], .inl hdeparted⟩
  cases effect with
  | alert message =>
      obtain ⟨out, hout, hlength, hfull⟩ := a.alerts.exists_append_raise message
      have hall : a.departed ++ out ++ (a.enact (.alert message)).alerts.pending =
          (a.enact (.alert message)).alertLog := by
        rw [halerts, hlog, ← h.departed_append, List.append_assoc, List.append_assoc]
        exact congrArg (a.departed ++ ·) hout
      obtain ⟨hqueued, hdeparted⟩ := h.of_append (by rw [halerts]; rfl) hall
      refine ⟨hqueued, hdeparted ▸ List.prefix_append _ _, hlength, ?_⟩
      rcases hfull with rfl | hfull
      · exact .inl (hdeparted.trans (List.append_nil _))
      · exact .inr (hfull.trans h.capacity_eq)
  | takeAlerts => exact absurd rfl heffect
  | _ => exact hother rfl rfl

theorem enactAll (h : Queued capacity a) {effects : List Effect}
    (heffects : ∀ effect ∈ effects, effect ≠ .takeAlerts) :
    Queued capacity (a.enactAll effects) ∧ a.departed <+: (a.enactAll effects).departed ∧
      ((a.enactAll effects).departed = a.departed ∨
        (a.enactAll effects).alerts.pending.length = capacity) := by
  refine enactAll_induction (P := fun b => Queued capacity b ∧ a.departed <+: b.departed ∧
    (b.departed = a.departed ∨ b.alerts.pending.length = capacity)) effects
    (fun effect heffect b ⟨hb, hgrows, hfull⟩ => ?_) ⟨h, List.prefix_rfl, .inl rfl⟩
  obtain ⟨hnext, hmore, hlength, hfull'⟩ := hb.enact (heffects effect heffect)
  refine ⟨hnext, hgrows.trans hmore, ?_⟩
  rcases hfull' with hsame | hfull'
  · rcases hfull with hfull | hfull
    · exact .inl (hsame.trans hfull)
    · exact .inr (Nat.le_antisymm hnext.length_le (hfull ▸ hlength))
  · exact .inr hfull'

end Queued

theorem queued_withoutJobs (capacity : Nat) (a : Application) :
    Queued capacity a.withoutJobs ↔ Queued capacity a :=
  ⟨fun h => ⟨h.1, h.2⟩, fun h => ⟨h.1, h.2⟩⟩

/-- An event that is no request for the page. -/
theorem Queued.step {capacity : Nat} {a : Application} (h : Queued capacity a) (event : Event)
    (hevent : ∀ r, event = .serve r → Http.Handler.ofRequest r ≠ .ok .index) :
    Queued capacity (a.step event) ∧ a.departed <+: (a.step event).departed ∧
      ((a.step event).departed = a.departed ∨
        (a.step event).alerts.pending.length = capacity) := by
  have hkeep : ∀ effect ∈ a.effects event, effect ≠ .takeAlerts := by
    rintro effect heffect rfl
    cases mayHave_of_mem_effects _ heffect with
    | takeAlerts r hindex => exact hevent r rfl hindex
  refine step_of_enactAll (P := fun b => Queued capacity b ∧ a.departed <+: b.departed ∧
    (b.departed = a.departed ∨ b.alerts.pending.length = capacity)) (fun b => ?_)
    (h.enactAll hkeep)
  exact and_congr (queued_withoutJobs capacity b) Iff.rfl

/-- A request for the page takes all alerts off the queue. -/
theorem Queued.step_index {capacity : Nat} {a : Application} (h : Queued capacity a)
    {r : Http.Request} (hindex : Http.Handler.ofRequest r = .ok .index) :
    Queued capacity (a.step (.serve r)) ∧
      (a.step (.serve r)).departed = a.departed ++ a.alerts.pending ∧
      (a.step (.serve r)).alerts.pending = [] := by
  refine step_of_enactAll (P := fun b => Queued capacity b ∧
    b.departed = a.departed ++ a.alerts.pending ∧ b.alerts.pending = []) (fun b => ?_) ?_
  · exact and_congr (queued_withoutJobs capacity b) Iff.rfl
  · have heffects : a.effects (.serve r) = [.takeAlerts] := by
      simp only [effects, hindex]
      rfl
    rw [heffects]
    have hall : a.departed ++ a.alerts.pending ++ (a.enactAll [.takeAlerts]).alerts.pending =
        (a.enactAll [.takeAlerts]).alertLog :=
      (List.append_nil _).trans h.departed_append
    obtain ⟨hqueued, hdeparted⟩ := h.of_append (b := a.enactAll [.takeAlerts]) rfl hall
    exact ⟨hqueued, hdeparted, rfl⟩

/-! ### The alerts of a run -/

theorem departure_serve_index {r : Http.Request} (h : Http.Handler.ofRequest r = .ok .index) :
    (Event.serve r).departure = if r.method == .head then .unseen else .shown := by
  simp only [Event.departure, h]
  rfl

theorem departure_of_mem {a : Application} {event : Event} {d : String × Departure}
    (h : d ∈ a.departures event) : d.2 = event.departure := by
  obtain ⟨alert, -, rfl⟩ := List.mem_map.mp h
  rfl

/-- Only a request for the page lets alerts leave the queue otherwise than by displacement. -/
theorem exists_index_of_departure_ne (event : Event) (h : event.departure ≠ .displaced) :
    ∃ r, event = .serve r ∧ Http.Handler.ofRequest r = .ok .index := by
  cases event with
  | serve r =>
      simp only [Event.departure] at h
      cases hhandler : Http.Handler.ofRequest r with
      | error refusal => simp [hhandler] at h
      | ok handler =>
          cases handler with
          | index => exact ⟨r, rfl, hhandler⟩
          | _ => simp [hhandler, Http.Handler.departure] at h
  | _ => exact absurd rfl h

/-! ### The queue of a run -/

theorem Queued.append_departures {capacity : Nat} {a : Application} (h : Queued capacity a)
    (event : Event) :
    Queued capacity (a.step event) ∧
      (a.step event).departed = a.departed ++ (a.departures event).map (·.1) := by
  have hgrows : Queued capacity (a.step event) ∧ a.departed <+: (a.step event).departed := by
    by_cases hindex : ∃ r, event = .serve r ∧ Http.Handler.ofRequest r = .ok .index
    · obtain ⟨r, rfl, hindex⟩ := hindex
      obtain ⟨hqueued, hdeparted, -⟩ := h.step_index hindex
      exact ⟨hqueued, hdeparted ▸ List.prefix_append _ _⟩
    · obtain ⟨hqueued, hgrows, -⟩ := h.step event fun r hr hr' => hindex ⟨r, hr, hr'⟩
      exact ⟨hqueued, hgrows⟩
  refine ⟨hgrows.1, ?_⟩
  rw [departures, List.map_map]
  refine (List.prefix_append_drop hgrows.2).trans (congrArg (a.departed ++ ·) ?_)
  exact (List.map_id _).symm

theorem Queued.departures_index {capacity : Nat} {a : Application} (h : Queued capacity a)
    {r : Http.Request} (hindex : Http.Handler.ofRequest r = .ok .index) :
    a.departures (.serve r) =
      a.alerts.pending.map fun alert => (alert, (Event.serve r).departure) := by
  rw [departures, (h.step_index hindex).2.1, List.drop_left]

/-- What is shown as an event happens is what departs with the page. -/
theorem Queued.shows_departures {capacity : Nat} {a : Application} (h : Queued capacity a)
    (event : Event) :
    ((a.departures event).filter (·.2 = .shown)).map (fun d => Html.escape d.1) =
      event.departure.shows a.alerts.pending := by
  have hnone (hway : event.departure ≠ .shown) :
      (a.departures event).filter (·.2 = .shown) = [] := by
    refine List.filter_eq_nil_iff.mpr fun d hd => ?_
    rw [departure_of_mem hd]
    simpa using hway
  cases hway : event.departure with
  | shown =>
      obtain ⟨r, rfl, hindex⟩ := exists_index_of_departure_ne event (by simp [hway])
      rw [h.departures_index hindex, hway, List.filter_eq_self.mpr (by simp), List.map_map]
      rfl
  | unseen =>
      rw [hnone (by simp [hway])]
      rfl
  | displaced =>
      rw [hnone (by simp [hway])]
      rfl

/-- The way of every alert. What has been raised has left the queue or is pending, each alert once
and in the order in which it was raised. The alerts that responses show are, one for one, those that
have left with a page; a page takes all that are pending, and if more than its head is sent it shows
them. An alert is displaced only by as many newer ones as the queue has room for, none of which a
page has taken. Unless the head of a page is asked for alone, alerts leave in no other way. -/
theorem alerts_shown_or_displaced (settings : Settings) (sizes : Sizes) (events : List Event) :
    let a := (ofSettings settings sizes).run events
    let left := along departures (ofSettings settings sizes) events
    left.map (·.1) ++ a.alerts.pending = a.alertLog ∧
      a.responses.flatMap (·.alerts) =
        (left.filter (·.2 = .shown)).map (fun d => Html.escape d.1) ∧
      (∀ r, Http.Handler.ofRequest r = .ok .index →
        (a.step (.serve r)).alerts.pending = [] ∧
          (r.method ≠ .head → ∃ response,
            (a.step (.serve r)).responses = a.responses ++ [response] ∧
            response.alerts = a.alerts.pending.map Html.escape)) ∧
      (∀ event, ∀ d ∈ a.departures event, d.2 = .displaced →
        (a.step event).alerts.pending.length = max sizes.alerts 1) ∧
      ((∀ r, .serve r ∈ events → Http.Handler.ofRequest r = .ok .index → r.method ≠ .head) →
        ∀ d ∈ left, d.2 ≠ .unseen) := by
  intro a left
  obtain ⟨hqueued, hleft, hshown⟩ := @along_induction _ departures
    (fun b seen => Queued (max sizes.alerts 1) b ∧ seen.map (·.1) = b.departed ∧
      b.shownAlerts = (seen.filter (·.2 = .shown)).map fun d => Html.escape d.1)
    events (ofSettings settings sizes) []
    (fun event _ b seen ⟨hqueued, hleft, hshown⟩ => by
      obtain ⟨hnext, hdeparted⟩ := hqueued.append_departures event
      refine ⟨hnext, ?_, ?_⟩
      · rw [List.map_append, hleft, hdeparted]
      · rw [List.filter_append, List.map_append, hqueued.shows_departures, shownAlerts_step,
          hshown])
    ⟨.ofSettings settings sizes, rfl, rfl⟩
  refine ⟨?_, hshown, fun r hindex => ⟨(hqueued.step_index hindex).2.2, fun hmethod => ?_⟩,
    fun event d hd hdisplaced => ?_, fun hheads => ?_⟩
  · exact (congrArg (· ++ a.alerts.pending) hleft).trans hqueued.departed_append
  · exact ⟨a.servePage.1, a.responses_step_index hindex hmethod, a.alerts_servePage⟩
  · have hway : event.departure = .displaced := departure_of_mem hd ▸ hdisplaced
    obtain ⟨-, -, hsame | hfull⟩ := hqueued.step event fun r hr hindex => by
      subst hr
      rw [departure_serve_index hindex] at hway
      split at hway <;> cases hway
    · rw [departures, hsame, List.drop_length] at hd
      cases hd
    · exact hfull
  · intro d hd hunseen
    obtain ⟨event, hevent, b, hd⟩ := exists_of_mem_along hd
    have hway : event.departure = .unseen := departure_of_mem hd ▸ hunseen
    obtain ⟨r, rfl, hindex⟩ := exists_index_of_departure_ne event (by simp [hway])
    rw [departure_serve_index hindex, if_neg (by simpa using hheads r hevent hindex)] at hway
    cases hway

/-- A queue for one alert: a page would show it, and a second alert displaces it. -/
theorem alerts_of_small_queue :
    let page : Http.Request := { method := .get, target := .ofText "/" }
    let events : List Event := [.serve page, .refuse (.empty .frames)]
    let a := (ofSettings {} { alerts := 1 }).run events
    Http.Handler.ofRequest page = .ok .index ∧ page.method ≠ .head ∧
      (∃ response, (a.step (.serve page)).responses = a.responses ++ [response] ∧
        response.alerts = ["FAILED: frames must not be empty"]) ∧
      (("FAILED: frames must not be empty", .displaced) ∈ a.departures (.refuse (.empty .period)) ∧
        (a.step (.refuse (.empty .period))).alerts.pending.length = 1) ∧
      (∀ r, .serve r ∈ events → Http.Handler.ofRequest r = .ok .index → r.method ≠ .head) ∧
      ∀ d ∈ along departures (ofSettings {} { alerts := 1 }) events, d.2 ≠ .unseen := by
  have hpage : Http.Handler.ofRequest { method := .get, target := .ofText "/" } = .ok .index := by
    rfl
  intro page events a
  have hmessage : (Failure.validation (.empty .frames)).alert =
      "FAILED: frames must not be empty" := by decide
  have hpending : a.alerts.pending = [(Failure.validation (.empty .frames)).alert] := by rfl
  have hbefore : a.departed = [] := departed_eq (by rfl)
  have hafter : (a.step (.refuse (.empty .period))).departed =
      [(Failure.validation (.empty .frames)).alert] := departed_eq (by rfl)
  have hnohead : ∀ r, .serve r ∈ events → Http.Handler.ofRequest r = .ok .index →
      r.method ≠ .head := by
    intro r hr
    simp only [events, List.mem_cons, Event.serve.injEq, reduceCtorEq, List.not_mem_nil,
      or_false] at hr
    rw [hr]
    exact fun _ => nofun
  have hescape : Html.escape "FAILED: frames must not be empty" =
      "FAILED: frames must not be empty" := by decide
  obtain ⟨-, -, hserved, hfull, hunseen⟩ := alerts_shown_or_displaced {} { alerts := 1 } events
  obtain ⟨-, hresponse⟩ := hserved page hpage
  obtain ⟨response, hresponses, halerts⟩ := hresponse nofun
  rw [hmessage] at hpending hafter
  have hmem : ("FAILED: frames must not be empty", .displaced) ∈
      a.departures (.refuse (.empty .period)) := by
    rw [departures, hbefore, hafter]
    exact List.mem_singleton_self _
  refine ⟨hpage, nofun, ⟨response, hresponses, ?_⟩, ⟨hmem, hfull _ _ hmem rfl⟩, hnohead,
    hunseen hnohead⟩
  rw [halerts]
  exact (congrArg (List.map Html.escape) hpending).trans (congrArg ([·]) hescape)

/-! ### A page that nobody sees -/

theorem alertLog_step_index (a : Application) {r : Http.Request}
    (hindex : Http.Handler.ofRequest r = .ok .index) :
    (a.step (.serve r)).alertLog = a.alertLog := by
  refine step_of_enactAll (P := fun b => b.alertLog = a.alertLog) (fun _ => Iff.rfl) ?_
  simp only [effects, hindex]
  exact (alertLog_enactAll a [.takeAlerts]).trans (List.append_nil _)

/-- An input is refused, the head of the page is asked for, and then the page: the alert of the
refusal is gone, though it was not displaced, and no response shows it. -/
theorem alert_lost_to_head_request :
    let refused : Http.Request :=
      { method := .post, target := .ofText "/detector/period",
        contentType := some "application/x-www-form-urlencoded", body := "value=fast" }
    let head : Http.Request := { method := .head, target := .ofText "/" }
    let page : Http.Request := { method := .get, target := .ofText "/" }
    let a := (ofSettings {} {}).run [.serve refused, .serve head, .serve page]
    Http.Handler.ofRequest page = .ok .index ∧
      a.alertLog = ["FAILED: period must be a non-negative number, got \"fast\""] ∧
      a.alertLog.length < a.alerts.capacity ∧ a.alerts.pending = [] ∧
      ∀ response ∈ a.responses, response.alerts = [] := by
  have hrefused : Http.Handler.ofRequest
      { method := .post, target := .ofText "/detector/period",
        contentType := some "application/x-www-form-urlencoded", body := "value=fast" } =
      .ok (.submit (.error (.notANumber .period "fast"))) := by rfl
  have hhead : Http.Handler.ofRequest { method := .head, target := .ofText "/" } = .ok .index := by
    rfl
  have hpage : Http.Handler.ofRequest { method := .get, target := .ofText "/" } = .ok .index := by
    rfl
  intro refused head page a
  let b := (ofSettings {} {}).step (.serve refused)
  let c := b.step (.serve head)
  have ha : a = c.step (.serve page) := by
    simp only [a, run, List.foldl_cons, List.foldl_nil, b, c]
  have hb : b = ((ofSettings {} {}).refuse (.notANumber .period "fast")).startJob .redirect 0 := by
    simp only [b, step, serve, refused, hrefused]
    rfl
  have hlog : b.alertLog = ["FAILED: period must be a non-negative number, got \"fast\""] := by
    have hmessage : (Failure.validation (.notANumber .period "fast")).alert =
        "FAILED: period must be a non-negative number, got \"fast\"" := by
      decide +kernel
    rw [hb, ← hmessage]
    exact alertLog_enactAll (ofSettings {} {}) (refusalEffects _)
  have hlog' : a.alertLog = ["FAILED: period must be a non-negative number, got \"fast\""] := by
    rw [ha, c.alertLog_step_index hpage, b.alertLog_step_index hhead, hlog]
  have hqueued : Queued 32 b :=
    ((Queued.ofSettings {} {}).append_departures (.serve refused)).1
  obtain ⟨hqueued', -, hnone⟩ := hqueued.step_index hhead
  obtain ⟨hqueued'', -, hnone'⟩ := hqueued'.step_index hpage
  have hshown : a.shownAlerts = [] := by
    have h1 := shownAlerts_step (ofSettings {} {}) (.serve refused)
    have h2 := shownAlerts_step b (.serve head)
    have h3 := shownAlerts_step c (.serve page)
    rw [departure_serve_index hhead] at h2
    rw [departure_serve_index hpage, hnone] at h3
    simp only [Event.departure, refused, hrefused] at h1
    rw [ha]
    exact h3.trans ((List.append_nil _).trans (h2.trans ((List.append_nil _).trans h1)))
  rw [← ha] at hqueued'' hnone'
  refine ⟨hpage, hlog', ?_, hnone', List.flatMap_eq_nil_iff.mp hshown⟩
  rw [hlog', hqueued''.capacity_eq]
  decide

end Application

end DetectorDashboard
