import DetectorDashboard.Proofs.PollerLifecycle

/-! The cadence of the poller. A timer is always set for the first multiple of its period to come,
whatever the control server does, so that an endpoint is polled once for each multiple, or less
often when something kept the timers from running. -/

namespace DetectorDashboard

/-- What happens between two moments: the clock moves on while every timer runs when it is due, or
a single event happens. A stall is an event; no timer runs during a stall. -/
inductive Happening where
  | sleep (time : Nat)
  | single (event : Event)

/-- A sleep is a stall of one millisecond after the other. -/
def Happening.events : Happening → List Event
  | .sleep time => List.replicate time (.stall 1)
  | .single event => [event]

namespace Application

open PollTimer (dueBy)

/-- To sleep is to let the clock run on by one millisecond after the other. -/
theorem run_events_sleep (a : Application) (time : Nat) :
    a.run (Happening.sleep time).events = a.sleep time := by
  induction time generalizing a with
  | zero => rfl
  | succ time ih => exact ih (a.stall 1)

theorem nodup_endpoints_ofPeriods (detector units : Nat) :
    ((Poller.ofPeriods detector units).schedules.map (·.endpoint)).Nodup := by
  simp [Poller.ofPeriods]

/-- The timer of a schedule after `n` polls since it was started at `origin`. -/
structure Paced (s : PollSchedule) (origin n : Nat) (punctual : Prop) (a : Application) : Prop where
  origin_le : origin ≤ a.clock
  timer : ∃ t ∈ a.poller.timers, t.schedule = s ∧
    t.deadline = origin + dueBy s.period (a.clock - origin) * s.period
  count_le : n ≤ dueBy s.period (a.clock - origin)
  count_eq : punctual → n = dueBy s.period (a.clock - origin)

namespace Paced

variable {s : PollSchedule} {origin n : Nat} {punctual : Prop} {a : Application}

theorem isRunning (h : Paced s origin n punctual a) : a.poller.isRunning = true := by
  obtain ⟨t, ht, -⟩ := h.timer
  exact decide_eq_true (List.ne_nil_of_mem ht)

variable {detector units : Nat}

/-- A schedule's first poll comes when the poller is started. -/
theorem start (hs : s ∈ (Poller.ofPeriods detector units).schedules) (hperiod : 0 < s.period)
    (hkeeps : Keeps (Poller.ofPeriods detector units).schedules a)
    (hidle : a.poller.timers = []) :
    Paced s a.clock ((a.polls .startPolling).count s.endpoint) punctual
      (a.step .startPolling) := by
  obtain ⟨hpoller, hclock⟩ := timersAfter_eq a .startPolling
  rw [← hkeeps.schedules_eq] at hs
  obtain ⟨t, ht, rfl⟩ : ∃ t ∈ (a.poller.start a.clock).timers, t.schedule = s := by
    rw [← List.mem_map, Poller.timers_start hidle, Poller.schedule_filterMap_timer?]
    exact List.mem_filter.mpr ⟨hs, decide_eq_true hperiod⟩
  have hnodup := (hkeeps.scheduled.start a.clock).nodup_endpoints <| by
    rw [Poller.schedules_start, hkeeps.schedules_eq]
    exact nodup_endpoints_ofPeriods detector units
  have hnow := Poller.deadline_of_mem_start hidle a.clock t ht
  obtain ⟨htimer, hle, heq⟩ := Poller.fire_spec (k := 0) hnodup ht rfl (by omega)
    (Nat.le_refl a.clock) (by omega)
  have hcount := heq (Nat.le_of_eq hnow.symm)
  refine ⟨Nat.le_of_eq hclock.symm, ?_, ?_, fun _ => ?_⟩
  all_goals rw [hclock]
  · rwa [hpoller]
  · exact Nat.le_of_eq hcount
  · exact hcount

/-- A stall moves the timer on, past the deadlines that it has missed. -/
theorem stall (h : Paced s origin n punctual a)
    (hkeeps : Keeps (Poller.ofPeriods detector units).schedules a) {time : Nat}
    (hpunctual : punctual → time = 1) :
    Paced s origin (n + (a.polls (.stall time)).count s.endpoint) punctual
      (a.step (.stall time)) := by
  obtain ⟨hpoller, hclock⟩ := timersAfter_eq a (.stall time)
  obtain ⟨t, ht, hs, hdeadline⟩ := h.timer
  have horigin := Nat.le_trans h.origin_le (Nat.le_add_right a.clock time)
  have hwaiting := hkeeps.waiting t ht
  have hnear : t.deadline ≤ a.clock + time + s.period := by
    have hmultiple := PollTimer.dueBy_mul_le s.period (a.clock - origin)
    have := h.origin_le
    omega
  have hnodup := hkeeps.scheduled.nodup_endpoints
    (hkeeps.schedules_eq ▸ nodup_endpoints_ofPeriods detector units)
  obtain ⟨htimer, hle, heq⟩ := Poller.fire_spec hnodup ht hs hdeadline horigin hnear
  have hcount := h.count_le
  simp only [timersAfter] at hpoller hclock
  refine ⟨?_, ?_, ?_, fun hp => ?_⟩
  all_goals rw [hclock]
  · exact horigin
  · rwa [hpoller]
  · simp only [polls]
    omega
  · have htime := hpunctual hp
    have hall := h.count_eq hp
    have hmore := heq (by omega)
    simp only [polls]
    omega

theorem step (h : Paced s origin n punctual a)
    (hkeeps : Keeps (Poller.ofPeriods detector units).schedules a) {event : Event}
    (hstop : event ≠ .stopPolling) (hpunctual : punctual → ∀ time, event = .stall time → time = 1) :
    Paced s origin (n + (a.polls event).count s.endpoint) punctual (a.step event) := by
  have hother (hafter : a.timersAfter event = (a.poller, a.clock)) (hpolls : a.polls event = []) :
      Paced s origin (n + (a.polls event).count s.endpoint) punctual (a.step event) := by
    obtain ⟨hpoller, hclock⟩ := timersAfter_eq a event
    rw [hafter] at hpoller hclock
    rw [hpolls, List.count_nil, Nat.add_zero]
    exact ⟨hclock ▸ h.origin_le, by rw [hpoller, hclock]; exact h.timer, hclock ▸ h.count_le,
      hclock ▸ h.count_eq⟩
  cases event with
  | startPolling =>
      have hfire := Poller.fire_of_forall_lt hkeeps.waiting
      have hstart := Poller.start_of_isRunning h.isRunning a.clock
      refine hother ?_ ?_
      · rw [timersAfter, hstart, hfire]
      · rw [polls, hstart, hfire]
  | stopPolling => exact absurd rfl hstop
  | stall time => exact h.stall hkeeps fun hp => hpunctual hp time rfl
  | _ => exact hother rfl rfl

end Paced

/-! ### The polls of an endpoint -/

/-- The polls of an endpoint among some calls. -/
def pollsOf (endpoint : Endpoint) (sent : List PendingCall) : List PendingCall :=
  sent.filter (·.purpose.polled? = some endpoint)

theorem length_pollsOf (endpoint : Endpoint) (sent : List PendingCall) :
    (pollsOf endpoint sent).length = (sent.filterMap (·.purpose.polled?)).count endpoint := by
  rw [List.count_filterMap, List.countP_eq_length_filter]
  refine congrArg List.length (List.filter_congr fun p _ => ?_)
  rw [beq_eq_decide]

/-- The timer of a schedule through a part of a run without a stop. -/
theorem Paced.along {s : PollSchedule} {origin detector units : Nat} {punctual : Prop}
    {a : Application} {log seen : List PendingCall} (events : List Event)
    (hstop : .stopPolling ∉ events)
    (hpunctual : punctual → ∀ event ∈ events, ∀ time, event = .stall time → time = 1)
    (hlog : Logged a (log ++ seen))
    (hkeeps : Keeps (Poller.ofPeriods detector units).schedules a)
    (hpaced : Paced s origin (pollsOf s.endpoint seen).length punctual a) :
    let sent := seen ++ along sent a events
    Logged (a.run events) (log ++ sent) ∧
      Paced s origin (pollsOf s.endpoint sent).length punctual (a.run events) := by
  have hrun := @along_induction _ sent
    (fun b seen => Keeps (Poller.ofPeriods detector units).schedules b ∧
      Logged b (log ++ seen) ∧ Paced s origin (pollsOf s.endpoint seen).length punctual b)
    events a seen
    (fun event hevent b seen ⟨hkeeps, hlog, hpaced⟩ => by
      refine ⟨hkeeps.step event, ?_, ?_⟩
      · rw [← List.append_assoc]
        exact hlog.step event
      · rw [length_pollsOf, List.filterMap_append, List.count_append, hlog.polled?_sent,
          ← length_pollsOf]
        exact hpaced.step hkeeps (fun heq => hstop (heq ▸ hevent))
          fun hp => hpunctual hp event hevent)
    ⟨hkeeps, hlog, hpaced⟩
  exact hrun.2

/-- A course is made of stalls of one millisecond and of the single events in it. -/
theorem of_mem_events {course : List Happening} {event : Event}
    (h : event ∈ course.flatMap (·.events)) : event = .stall 1 ∨ .single event ∈ course := by
  obtain ⟨happening, hmem, hevent⟩ := List.mem_flatMap.mp h
  cases happening with
  | sleep time => exact .inl (List.eq_of_mem_replicate hevent)
  | single single =>
      rw [List.mem_singleton.mp hevent]
      exact .inr hmem

/-- The polls of an endpoint in the time since the poller was started, whatever happens but a stop:
there is at most one for each multiple of the period in that time, and exactly one for each unless
there was a stall. -/
theorem polls_of_course (settings : Settings) (sizes : Sizes) (hdetector : 0 < sizes.detectorPeriod)
    (hunits : 0 < sizes.unitsPeriod) (before : List Event) (course : List Happening)
    {s : PollSchedule}
    (hs : s ∈ (Poller.ofPeriods sizes.detectorPeriod sizes.unitsPeriod).schedules)
    (hidle : ((ofSettings settings sizes).run before).poller.isRunning = false)
    (hstop : .single .stopPolling ∉ course) :
    let a := (ofSettings settings sizes).run before
    let events := .startPolling :: course.flatMap (·.events)
    let time := (a.run events).clock - a.clock
    let polls := pollsOf s.endpoint (along sent a events)
    (∀ p ∈ polls, ∃ paths, p.call = ⟨.get, s.endpoint.path paths, none⟩) ∧
      polls.length ≤ time / s.period + 1 ∧
      ((∀ d, .single (.stall d) ∉ course) → polls.length = time / s.period + 1) := by
  intro a events time polls
  have hperiod : 0 < s.period := by
    have hall : ∀ s ∈ (Poller.ofPeriods sizes.detectorPeriod sizes.unitsPeriod).schedules,
        0 < s.period := by
      simp [Poller.ofPeriods, hdetector, hunits]
    exact hall s hs
  have hlog : Logged a (along sent (ofSettings settings sizes) before) :=
    logged_run settings sizes before
  have hkeeps : Keeps (Poller.ofPeriods sizes.detectorPeriod sizes.unitsPeriod).schedules a :=
    run_induction before (fun event _ _ h => h.step event) (.ofSettings settings sizes)
  have hstart : Paced s a.clock (pollsOf s.endpoint (a.sent .startPolling)).length
      (∀ d, .single (.stall d) ∉ course) (a.step .startPolling) := by
    rw [length_pollsOf, hlog.polled?_sent]
    exact .start hs hperiod hkeeps (Poller.isRunning_eq_false.mp hidle)
  obtain ⟨hlogged, hpaced⟩ := Paced.along (course.flatMap (·.events))
    (fun hmem => (of_mem_events hmem).elim (fun h => by cases h) hstop)
    (fun hnone event hevent time heq => by
      subst heq
      rcases of_mem_events hevent with heq | hmem
      · exact Event.stall.inj heq
      · exact absurd hmem (hnone time))
    (hlog.step .startPolling) (hkeeps.step .startPolling) hstart
  refine ⟨fun p hp => ?_, hpaced.count_le, hpaced.count_eq⟩
  obtain ⟨hp, hpoll⟩ := List.mem_filter.mp hp
  exact hlogged.polls p (List.mem_append_right _ hp) s.endpoint (of_decide_eq_true hpoll)

/-- Seven milliseconds after its second start, a poller has polled for the moments 0, 3 and 6. -/
theorem polls_of_restarted_poller :
    let sizes : Sizes := { detectorPeriod := 3, unitsPeriod := 500 }
    let a := (ofSettings {} sizes).run [.startPolling, .stall 2, .stopPolling]
    let course : List Happening :=
      [.sleep 4, .single (.deliver ⟨0, 0⟩ 5 (.error (.transport "refused"))), .sleep 3]
    let events := .startPolling :: course.flatMap (·.events)
    a.poller.isRunning = false ∧ .single .stopPolling ∉ course ∧
      (∀ d, .single (.stall d) ∉ course) ∧
      (a.run events).clock - a.clock = 7 ∧
      (pollsOf .detectorStatus (along sent a events)).length = 3 := by
  have htime : (((ofSettings {} { detectorPeriod := 3, unitsPeriod := 500 }).run
      [.startPolling, .stall 2, .stopPolling]).run (Event.startPolling ::
        [Happening.sleep 4, .single (.deliver ⟨0, 0⟩ 5 (.error (.transport "refused"))),
          .sleep 3].flatMap (·.events))).clock -
      ((ofSettings {} { detectorPeriod := 3, unitsPeriod := 500 }).run
        [.startPolling, .stall 2, .stopPolling]).clock = 7 := by
    cbv
  intro sizes a course events
  have hstop : .single .stopPolling ∉ course := by simp [course]
  have hstall : ∀ d, .single (.stall d) ∉ course := by simp [course]
  have hpolls := (polls_of_course {} sizes (by decide) (by decide)
    [.startPolling, .stall 2, .stopPolling] course (s := ⟨.detectorStatus, 3⟩)
    (by simp [sizes, Poller.ofPeriods]) rfl hstop).2.2 hstall
  rw [htime] at hpolls
  exact ⟨rfl, hstop, hstall, htime, hpolls⟩

end Application

end DetectorDashboard
