import Mathlib.Data.List.Permutation
import DetectorDashboard.Proofs.PollTimers
import DetectorDashboard.Proofs.SentCalls

/-! The life of the poller. Its timers change when it is started, stopped or run, and at no other
event. Every poll without an answer is one of a timer that is running, so that a stop, which takes
the polls of each timer with it, leaves none behind. -/

namespace DetectorDashboard.Application

/-- The poller and the clock after an event. -/
def timersAfter (a : Application) : Event → Poller × Nat
  | .startPolling => (((a.poller.start a.clock).fire a.clock).2, a.clock)
  | .stopPolling => (a.poller.stop, a.clock)
  | .stall time => ((a.poller.fire (a.clock + time)).2, a.clock + time)
  | _ => (a.poller, a.clock)

theorem timers_enact_of_ne {effect : Effect} (h : ∀ poller clock, effect ≠ .setTimers poller clock)
    (a : Application) : (a.enact effect).poller = a.poller ∧ (a.enact effect).clock = a.clock := by
  cases effect with
  | setTimers poller clock => exact absurd rfl (h poller clock)
  | enter fragment =>
      simp only [enact, enter, publish]
      exact ⟨trivial, trivial⟩
  | render now seq response =>
      simp only [enact, apply]
      cases a.dashboard.accept? now seq response <;> exact ⟨rfl, rfl⟩
  | _ => exact ⟨rfl, rfl⟩

theorem timers_enactAll_of_ne {effects : List Effect}
    (h : ∀ effect ∈ effects, ∀ poller clock, effect ≠ .setTimers poller clock) (a : Application) :
    (a.enactAll effects).poller = a.poller ∧ (a.enactAll effects).clock = a.clock := by
  refine enactAll_induction (P := fun b => b.poller = a.poller ∧ b.clock = a.clock) effects
    (fun effect heffect b hb => ?_) ⟨rfl, rfl⟩
  obtain ⟨hpoller, hclock⟩ := timers_enact_of_ne (h effect heffect) b
  exact ⟨hpoller.trans hb.1, hclock.trans hb.2⟩

theorem timers_tickEffects (a : Application) (poller : Poller) (clock : Nat) :
    (a.enactAll (tickEffects poller clock)).poller = (poller.fire clock).2 ∧
      (a.enactAll (tickEffects poller clock)).clock = clock := by
  rw [tickEffects, enactAll_cons]
  refine timers_enactAll_of_ne (fun effect heffect => ?_) _
  obtain ⟨endpoint, -, rfl⟩ := List.mem_map.mp heffect
  intro poller clock h
  cases h

/-- The timers change when the poller is started, stopped or run, and at no other event. -/
theorem timersAfter_eq (a : Application) (event : Event) :
    (a.step event).poller = (a.timersAfter event).1 ∧
      (a.step event).clock = (a.timersAfter event).2 := by
  refine step_of_enactAll (P := fun b => b.poller = (a.timersAfter event).1 ∧
    b.clock = (a.timersAfter event).2) (fun _ => Iff.rfl) ?_
  have hother (hstart : event ≠ .startPolling) (hstop : event ≠ .stopPolling)
      (hstall : ∀ time, event ≠ .stall time) :
      (a.enactAll (a.effects event)).poller = a.poller ∧
        (a.enactAll (a.effects event)).clock = a.clock := by
    refine timers_enactAll_of_ne (fun effect heffect => ?_) a
    cases mayHave_of_mem_effects effect heffect with
    | start => exact absurd rfl hstart
    | stop => exact absurd rfl hstop
    | stall time => exact absurd rfl (hstall time)
    | _ => nofun
  cases event with
  | startPolling => exact timers_tickEffects a _ _
  | stopPolling => exact ⟨rfl, rfl⟩
  | stall time => exact timers_tickEffects a _ _
  | _ => exact hother nofun nofun nofun

/-! ### Timers of a run -/

/-- The timers of an application whose poller keeps to some schedules: none is due, and unless the
poller is stopped they are those of the schedules. -/
structure Keeps (schedules : List PollSchedule) (a : Application) : Prop where
  schedules_eq : a.poller.schedules = schedules
  scheduled : a.poller.Scheduled
  waiting : ∀ t ∈ a.poller.timers, a.clock < t.deadline

namespace Keeps

variable {schedules : List PollSchedule} {a : Application}

theorem ofSettings (settings : Settings) (sizes : Sizes) :
    Keeps (Poller.ofPeriods sizes.detectorPeriod sizes.unitsPeriod).schedules
      (.ofSettings settings sizes) :=
  ⟨rfl, .inl rfl, nofun⟩

theorem step (h : Keeps schedules a) (event : Event) : Keeps schedules (a.step event) := by
  obtain ⟨hpoller, hclock⟩ := timersAfter_eq a event
  suffices hafter : (a.timersAfter event).1.schedules = schedules ∧
      (a.timersAfter event).1.Scheduled ∧
      ∀ t ∈ (a.timersAfter event).1.timers, (a.timersAfter event).2 < t.deadline by
    rw [← hpoller, ← hclock] at hafter
    exact ⟨hafter.1, hafter.2.1, hafter.2.2⟩
  cases event with
  | startPolling =>
      exact ⟨(a.poller.schedules_start a.clock).trans h.schedules_eq,
        (h.scheduled.start a.clock).fire a.clock, Poller.lt_deadline_of_mem_fire⟩
  | stopPolling => exact ⟨h.schedules_eq, .inl rfl, nofun⟩
  | stall time =>
      exact ⟨h.schedules_eq, h.scheduled.fire _, Poller.lt_deadline_of_mem_fire⟩
  | _ => exact ⟨h.schedules_eq, h.scheduled, h.waiting⟩

/-- A poller that is running is not started again. -/
theorem step_startPolling (h : Keeps schedules a) (hrunning : a.poller.isRunning = true) :
    a.step .startPolling = a := by
  have hfire := Poller.fire_of_forall_lt h.waiting
  simp only [Application.step, startPolling, tick, Poller.start_of_isRunning hrunning, hfire,
    List.foldl_nil]

end Keeps

/-! ### The polls of the timers -/

/-- Every poll without an answer is one of a timer that is running. -/
def Owned (a : Application) : Prop :=
  ∀ p ∈ a.pending, ∀ e, p.purpose.polled? = some e → a.poller.HasTimer e

theorem abandonPoll_of_hasTimer {poller : Poller} {p : PendingCall} {e : Endpoint}
    (hpoll : p.purpose.polled? = some e) (h : poller.HasTimer e) :
    abandonPoll poller.timers p = p.abandoned := by
  obtain ⟨id, call, purpose⟩ := p
  cases purpose with
  | poll endpoint seq =>
      obtain rfl := Option.some.inj hpoll
      obtain ⟨t, ht, hendpoint⟩ := h
      have hany : poller.timers.any (·.endpoint = endpoint) = true :=
        List.any_eq_true.mpr ⟨t, ht, decide_eq_true hendpoint⟩
      exact if_pos hany
  | _ => cases hpoll

namespace Owned

variable {a : Application}

theorem enact (h : Owned a) {effect : Effect}
    (htimers : ∀ poller clock, effect ≠ .setTimers poller clock)
    (hpoll : ∀ e, effect.polled? = some e → a.poller.HasTimer e) : Owned (a.enact effect) := by
  rw [Owned, (timers_enact_of_ne htimers a).1, pending_enact]
  refine List.forall_mem_append.mpr ⟨?_, fun p hp e he => ?_⟩
  · cases effect with
    | close id => exact fun p hp => h p (List.mem_of_mem_filter hp)
    | abandonPolls =>
        refine List.forall_mem_map.mpr fun p hp => ?_
        rcases abandonPoll_eq a.poller.timers p with hsame | ⟨-, hgone⟩
        · rw [hsame]
          exact h p hp
        · rw [hgone]
          nofun
    | _ => exact h
  · rw [← Effect.polled?_sent? a, Option.mem_toList.mp hp] at hpoll
    exact hpoll e he

theorem enactAll (h : Owned a) {effects : List Effect}
    (htimers : ∀ effect ∈ effects, ∀ poller clock, effect ≠ .setTimers poller clock)
    (hpoll : ∀ effect ∈ effects, ∀ e, effect.polled? = some e → a.poller.HasTimer e) :
    Owned (a.enactAll effects) := by
  refine (enactAll_induction (P := fun b => Owned b ∧ b.poller = a.poller) effects
    (fun effect heffect b ⟨hb, hpoller⟩ => ?_) ⟨h, rfl⟩).1
  refine ⟨hb.enact (htimers effect heffect) (hpoller ▸ hpoll effect heffect), ?_⟩
  exact (timers_enact_of_ne (htimers effect heffect) b).1.trans hpoller

/-- Timers that are run own the polls that they send. -/
theorem tick (h : Owned a) {poller : Poller} (hkeep : ∀ e, a.poller.HasTimer e → poller.HasTimer e)
    (clock : Nat) : Owned (a.enactAll (tickEffects poller clock)) := by
  have hset : Owned (a.enact (.setTimers (poller.fire clock).2 clock)) :=
    fun p hp e he => (hkeep e (h p hp e he)).fire clock
  refine hset.enactAll (List.forall_mem_map.mpr fun _ _ _ _ => nofun)
    (List.forall_mem_map.mpr fun endpoint hendpoint e he => ?_)
  obtain rfl := Option.some.inj he
  exact (Poller.hasTimer_of_mem_fire hendpoint).fire clock

/-- A stop leaves no poll that anyone waits for. -/
theorem polled?_stopPolling (h : Owned a) {p : PendingCall}
    (hp : p ∈ (a.step .stopPolling).pending) : p.purpose.polled? = none := by
  obtain ⟨q, hq, rfl⟩ := List.mem_map.mp hp
  cases hpoll : q.purpose.polled? with
  | none =>
      rcases abandonPoll_eq a.poller.timers q with hsame | ⟨-, hgone⟩
      · rw [hsame, hpoll]
      · rw [hgone]
        rfl
  | some e =>
      rw [abandonPoll_of_hasTimer hpoll (h q hq e hpoll)]
      rfl

theorem step (h : Owned a) (event : Event) : Owned (a.step event) := by
  by_cases hstop : event = .stopPolling
  · subst hstop
    intro p hp e he
    rw [h.polled?_stopPolling hp] at he
    cases he
  · refine step_of_enactAll (P := Owned) (fun _ => Iff.rfl) ?_
    have hother (hstart : event ≠ .startPolling) (hstall : ∀ time, event ≠ .stall time) :
        Owned (a.enactAll (a.effects event)) := by
      refine h.enactAll (fun effect heffect => ?_) (fun effect heffect => ?_)
      all_goals
        cases mayHave_of_mem_effects effect heffect with
        | start | firstPoll => exact absurd rfl hstart
        | stop => exact absurd rfl hstop
        | stall time | poll time => exact absurd rfl (hstall time)
        | _ => nofun
    cases event with
    | startPolling => exact h.tick (fun _ he => he.start a.clock) a.clock
    | stall time => exact h.tick (fun _ he => he) (a.clock + time)
    | _ => exact hother nofun nofun

theorem run (settings : Settings) (sizes : Sizes) (events : List Event) :
    Owned ((ofSettings settings sizes).run events) :=
  run_induction (P := Owned) events (fun event _ _ h => h.step event) nofun

end Owned

/-! ### Abandoned calls -/

/-- Nobody waits for the call of a number: it has been made, and if it is pending it is
abandoned. -/
structure Abandoned (id : Nat) (a : Application) : Prop where
  id_lt : id < a.calls.size
  purpose_eq : ∀ q ∈ a.pending, q.id = id → q.purpose = .abandoned

namespace Abandoned

variable {id : Nat} {a : Application}

theorem enact (h : Abandoned id a) (effect : Effect) : Abandoned id (a.enact effect) where
  id_lt := Nat.lt_of_lt_of_le h.id_lt (size_le_size_enact a effect)
  purpose_eq := by
    rw [pending_enact]
    refine List.forall_mem_append.mpr ⟨?_, fun q hq hid => ?_⟩
    · cases effect with
      | close closed => exact fun q hq => h.purpose_eq q (List.mem_of_mem_filter hq)
      | abandonPolls =>
          refine List.forall_mem_map.mpr fun q hq hid => ?_
          rw [abandonPoll_id] at hid
          have hpurpose := h.purpose_eq q hq hid
          rw [abandonPoll, hpurpose]
          exact hpurpose
      | _ => exact h.purpose_eq
    -- a call that is made now has a number of its own
    · have hnew := Effect.id_sent? (Option.mem_toList.mp hq)
      exact absurd h.id_lt (by omega)

theorem step (h : Abandoned id a) (event : Event) : Abandoned id (a.step event) :=
  step_of_enactAll (P := Abandoned id) (fun _ => ⟨fun h => ⟨h.1, h.2⟩, fun h => ⟨h.1, h.2⟩⟩)
    (enactAll_induction (P := Abandoned id) _ (fun effect _ _ h => h.enact effect) h)

/-- A stop abandons the polls that have not been answered. -/
theorem stopPolling {log : List PendingCall} (h : Logged a log) (howned : Owned a)
    {p : PendingCall} (hp : p ∈ log) (hpoll : p.purpose.polled?.isSome) :
    Abandoned p.id (a.step .stopPolling) where
  id_lt := h.id_lt hp
  purpose_eq := by
    refine List.forall_mem_map.mpr fun q hq hid => ?_
    rw [abandonPoll_id] at hid
    obtain ⟨p', hp', rfl | rfl⟩ := h.pending q hq
    · obtain ⟨e, he⟩ := Option.isSome_iff_exists.mp hpoll
      rw [← h.eq_of_id_eq hp' hp hid] at he
      rw [abandonPoll_of_hasTimer he (howned q hq e he)]
      rfl
    · rfl

/-- The answer to an abandoned call changes nothing but that the call is answered. -/
theorem step_deliver (h : Abandoned id a) (now : Timestamp) (reply : Reply) :
    a.step (.deliver now id reply) =
      { a with pending := a.pending.filter (·.id ≠ id) } := by
  simp only [Application.step, deliver]
  cases hfind : a.pending.find? (·.id = id) with
  | none =>
      have hkeep : a.pending.filter (·.id ≠ id) = a.pending := by
        refine List.filter_eq_self.mpr fun q hq => ?_
        simpa using List.find?_eq_none.mp hfind q hq
      rw [hkeep]
  | some q =>
      have hid : q.id = id := of_decide_eq_true (List.find?_some hfind :)
      dsimp only
      rw [h.purpose_eq q (List.mem_of_find?_eq_some hfind) hid]
      rfl

end Abandoned

/-! ### The life of the poller -/

/-- A start after a stop polls for each schedule at once, under new numbers. -/
theorem sent_startPolling {schedules : List PollSchedule} {a : Application}
    {log : List PendingCall} (hlog : Logged a log) (hkeeps : Keeps schedules a)
    (hidle : a.poller.timers = []) :
    ((a.sent .startPolling).map fun p => (p.purpose.polled?, p.call)) =
        ((schedules.filter (0 < ·.period)).map fun s =>
          (some s.endpoint, ⟨.get, s.endpoint.path a.dashboard.paths, none⟩)) ∧
      ∀ p ∈ a.sent .startPolling, ∀ q ∈ log, ∀ e m n, p.purpose.request? = some (e, m) →
        q.purpose.request? = some (e, n) → n < m := by
  constructor
  · rw [hlog.sent_eq, effects, tickEffects, Poller.polls_start hidle, hkeeps.schedules_eq]
    refine (sentAll_ask _ _).trans ?_
    rw [List.map_map]
    rfl
  · intro p hp q hq e m n hm hn
    rw [hlog.sent_eq] at hp
    exact Nat.lt_of_lt_of_le (hlog.seq_lt q hq e n hn) (next_le_of_mem_sentAll hp hm)

/-- The poller through every run. While it is stopped, only the triggers of others make calls. An
answer that comes after a stop to a poll sent before it changes nothing, whatever happens between
them. A start changes nothing while the poller is running, and no schedule has two timers. A start
after a stop polls for each schedule at once, under numbers above those of all earlier requests to
the endpoint. -/
theorem poller_lifecycle (settings : Settings) (sizes : Sizes) (events : List Event) :
    let a := (ofSettings settings sizes).run events
    let log := along sent (ofSettings settings sizes) events
    let schedules := (Poller.ofPeriods sizes.detectorPeriod sizes.unitsPeriod).schedules
    log.map (·.call) = a.calls.toList ∧
      ((a.step .stopPolling).poller.isRunning = false ∧
        (a.poller.isRunning = false → ∀ event ≠ .startPolling,
          (a.step event).poller.isRunning = false ∧
          (a.step event).calls.toList =
            a.calls.toList ++ event.calls (settings.shownPaths a.dashboard.page))) ∧
      (∀ p ∈ log, p.purpose.polled?.isSome → ∀ rest now reply,
        let b := (a.step .stopPolling).run rest
        b.step (.deliver now p.id reply) =
          { b with pending := b.pending.filter (·.id ≠ p.id) }) ∧
      ((a.poller.isRunning = true → a.step .startPolling = a) ∧
        (a.poller.timers.map (·.schedule)).Subperm schedules) ∧
      (a.poller.isRunning = false →
        ((a.sent .startPolling).map fun p => (p.purpose.polled?, p.call)) =
            ((schedules.filter (0 < ·.period)).map fun s =>
              (some s.endpoint,
                ⟨.get, s.endpoint.path (settings.shownPaths a.dashboard.page), none⟩)) ∧
          ∀ p ∈ a.sent .startPolling, ∀ q ∈ log, ∀ e m n, p.purpose.request? = some (e, m) →
            q.purpose.request? = some (e, n) → n < m) := by
  intro a log schedules
  have hlog : Logged a log := logged_run settings sizes events
  have hkeeps : Keeps schedules a :=
    run_induction events (fun event _ _ h => h.step event) (.ofSettings settings sizes)
  have hconsistent : Consistent settings a.dashboard :=
    run_induction (P := fun a => Consistent settings a.dashboard) events
      (fun event _ _ h => consistent_step h event) (.ofSettings settings)
  refine ⟨hlog.calls, ⟨rfl, fun hidle event hevent => ?_⟩, fun p hp hpoll rest now reply => ?_,
    ⟨hkeeps.step_startPolling, hkeeps.schedules_eq ▸ hkeeps.scheduled.subperm⟩, fun hidle => ?_⟩
  · have hnone := Poller.isRunning_eq_false.mp hidle
    exact ⟨Poller.isRunning_eq_false.mpr (timers_step hnone hevent),
      calls_step hnone hconsistent hevent⟩
  · have hstopped := Abandoned.stopPolling hlog (Owned.run settings sizes events) hp hpoll
    have habandoned : Abandoned p.id ((a.step .stopPolling).run rest) :=
      run_induction rest (fun event _ _ h => h.step event) hstopped
    exact habandoned.step_deliver now reply
  · have hstart := sent_startPolling hlog hkeeps (Poller.isRunning_eq_false.mp hidle)
    rwa [hconsistent.paths_eq] at hstart

/-- A poller that is stopped while its first poll is pending and started again: the answer to that
poll comes too late, and the new polls have new numbers. -/
theorem late_answer_to_restarted_poller :
    let events : List Event := [.startPolling, .stall 100]
    let a := (ofSettings {} {}).run events
    let b := (ofSettings {} {}).run (events ++ [.stopPolling])
    (a.poller.isRunning = true ∧ a.step .startPolling = a) ∧
      (b.poller.isRunning = false ∧ (b.step (.stall 500)).calls.toList = b.calls.toList ∧
        (b.sent .startPolling).map (·.purpose.polled?) =
          [some .detectorConfig, some .detectorStatus, some .receivers, some .processors] ∧
        (b.sent .startPolling).map (·.purpose.request?) =
          [some (.detectorConfig, 2), some (.detectorStatus, 2), some (.receivers, 1),
            some (.processors, 1)]) ∧
      ∀ now reply, (b.step .startPolling).step (.deliver now 0 reply) =
        { b.step .startPolling with
          pending := (b.step .startPolling).pending.filter (·.id ≠ 0) } := by
  have hrunning : ((ofSettings {} {}).run [.startPolling, .stall 100]).poller.isRunning = true := by
    cbv
  have hnumbers : (((ofSettings {} {}).run [.startPolling, .stall 100, .stopPolling]).sent
      .startPolling).map (·.purpose.request?) =
        [some (.detectorConfig, 2), some (.detectorStatus, 2), some (.receivers, 1),
          some (.processors, 1)] := by
    cbv
  have hlog : ((along sent (ofSettings {} {}) [.startPolling, .stall 100]).map
      fun p => (p.id, p.purpose)).head? = some (0, .poll .detectorConfig 0) := by
    cbv
  intro events a b
  obtain ⟨-, -, hlate, ⟨hagain, -⟩, -⟩ := poller_lifecycle {} {} events
  obtain ⟨-, ⟨-, hidle⟩, -, -, hstart⟩ := poller_lifecycle {} {} (events ++ [.stopPolling])
  have hstopped : b.poller.isRunning = false := rfl
  obtain ⟨p, hp, hpair⟩ := List.mem_map.mp (List.mem_of_mem_head? hlog)
  obtain ⟨hid, hpurpose⟩ := Prod.mk.inj hpair
  refine ⟨⟨hrunning, hagain hrunning⟩, ⟨hstopped, ?_, ?_, hnumbers⟩, fun now reply => ?_⟩
  · exact (hidle hstopped (.stall 500) (fun h => by cases h)).2.trans (List.append_nil _)
  · have hpolls := congrArg (List.map Prod.fst) (hstart hstopped).1
    rw [List.map_map, List.map_map] at hpolls
    exact hpolls
  · have hanswer := hlate p hp (hpurpose ▸ rfl) [.startPolling] now reply
    rw [hid] at hanswer
    exact hanswer

end DetectorDashboard.Application
