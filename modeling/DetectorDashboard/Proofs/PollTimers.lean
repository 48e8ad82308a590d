import Mathlib.Data.List.Nodup
import Mathlib.Data.List.Perm.Subperm
import DetectorDashboard.Poller

/-! Timers. A timer that is started at some moment is due at the multiples of its period from then
on: however late it is run, its next deadline is the first of these that is still to come, and it
has not run more often than there have been deadlines. -/

namespace DetectorDashboard

namespace PollTimer

def schedule (t : PollTimer) : PollSchedule :=
  ⟨t.endpoint, t.period⟩

theorem fire_of_lt {t : PollTimer} {now : Nat} (h : now < t.deadline) : t.fire now = (0, t) := by
  rw [fire, if_neg (Nat.not_le_of_lt h)]

theorem fire_of_le {t : PollTimer} {now : Nat} (h : t.deadline ≤ now) :
    t.fire now = (((t.rearm now).fire now).1 + 1, ((t.rearm now).fire now).2) := by
  rw [fire, if_pos h]

/-- After it has run, a timer is set for later. -/
theorem lt_deadline_fire (t : PollTimer) (now : Nat) : now < (t.fire now).2.deadline := by
  induction t using fire.induct now with
  | case1 t hdue _ _ _ ih =>
      rw [fire_of_le hdue]
      exact ih
  | case2 t hwait =>
      have hlt := Nat.lt_of_not_le hwait
      rwa [fire_of_lt hlt]

theorem schedule_fire (t : PollTimer) (now : Nat) : (t.fire now).2.schedule = t.schedule := by
  induction t using fire.induct now with
  | case1 t hdue _ _ _ ih =>
      rw [fire_of_le hdue]
      exact ih
  | case2 t hwait => rw [fire_of_lt (Nat.lt_of_not_le hwait)]

/-- A timer that is run on time runs once. -/
theorem fire_of_eq {t : PollTimer} {now : Nat} (h : t.deadline = now) :
    t.fire now = (1, t.rearm now) := by
  have hlater := h ▸ t.deadline_lt_nextDeadline now
  rw [fire_of_le (Nat.le_of_eq h), fire_of_lt (t := t.rearm now) hlater]

/-- How many of the moments 0, `period`, 2 · `period`, … have come after so much time. -/
def dueBy (period elapsed : Nat) : Nat :=
  elapsed / period + 1

theorem dueBy_eq {period elapsed k : Nat} (hlt : elapsed < k * period)
    (hle : k * period ≤ elapsed + period) : dueBy period elapsed = k := by
  cases k with
  | zero => omega
  | succ k =>
      have hlow : k * period ≤ elapsed := by
        rw [Nat.succ_mul] at hle
        omega
      rw [dueBy, Nat.div_eq_of_lt_le hlow hlt]

theorem dueBy_mul_le (period elapsed : Nat) : dueBy period elapsed * period ≤ elapsed + period := by
  rw [dueBy, Nat.succ_mul]
  exact Nat.add_le_add_right (Nat.div_mul_le_self elapsed period) period

/-- The next deadline is one of the multiples, and the next one if the timer is on time. -/
theorem nextDeadline_eq {t : PollTimer} {now origin k : Nat}
    (hgrid : t.deadline = origin + k * t.period) (hdue : t.deadline ≤ now) :
    ∃ l, k < l ∧ (t.deadline = now → l = k + 1) ∧ t.nextDeadline now = origin + l * t.period ∧
      t.nextDeadline now ≤ now + t.period := by
  have hsum := Nat.div_add_mod (now - t.deadline) t.period
  unfold nextDeadline
  split
  · rename_i hlate
    have hcount := Nat.le_add_right k ((now - t.deadline) / t.period)
    refine ⟨k + (now - t.deadline) / t.period + 1, Nat.lt_succ_of_le hcount, fun hnow => ?_, ?_,
      Nat.sub_le _ _⟩
    · unfold tolerance at hlate
      omega
    · rw [Nat.add_mul, Nat.add_mul, Nat.one_mul, Nat.mul_comm (_ / _)]
      omega
  · refine ⟨k + 1, Nat.lt_succ_self k, fun _ => rfl, ?_, Nat.add_le_add_right hdue _⟩
    rw [hgrid, Nat.add_mul, Nat.one_mul, Nat.add_assoc]

/-- However late it is run, a timer is set for the first multiple of its period that is to come. It
has run at most as often as there have been multiples since its deadline, and just so often if it is
run on time. -/
theorem fire_spec (t : PollTimer) {now origin k : Nat}
    (hgrid : t.deadline = origin + k * t.period) (horigin : origin ≤ now)
    (hnear : t.deadline ≤ now + t.period) :
    (t.fire now).2.deadline = origin + dueBy t.period (now - origin) * t.period ∧
      (t.fire now).1 + k ≤ dueBy t.period (now - origin) ∧
      (now ≤ t.deadline → (t.fire now).1 + k = dueBy t.period (now - origin)) := by
  induction t using fire.induct now generalizing k with
  | case1 t hdue _ _ _ ih =>
      obtain ⟨l, hkl, htime, hnext, hbound⟩ := nextDeadline_eq hgrid hdue
      obtain ⟨hdeadline, hcount, hexact⟩ := ih (k := l) hnext hbound
      rw [fire_of_le hdue]
      refine ⟨hdeadline, ?_, fun hnow => ?_⟩
      · change _ ≤ dueBy t.period _ at hcount
        dsimp only
        omega
      · have hnow := Nat.le_antisymm hdue hnow
        have hlater := hnow ▸ t.deadline_lt_nextDeadline now
        have hrest := hexact (Nat.le_of_lt hlater)
        rw [htime hnow] at hrest
        change _ = dueBy t.period _ at hrest
        dsimp only
        omega
  | case2 t hwait =>
      have hlt := Nat.lt_of_not_le hwait
      have hdue : dueBy t.period (now - origin) = k := dueBy_eq (by omega) (by omega)
      rw [fire_of_lt hlt, hdue, Nat.zero_add]
      exact ⟨hgrid, Nat.le_refl k, fun _ => rfl⟩

end PollTimer

namespace Poller

/-- The endpoints that a timer polls when it is run. -/
def pollsOf (now : Nat) (t : PollTimer) : List Endpoint :=
  List.replicate (t.fire now).1 t.endpoint

theorem fire_of_mem_waiting {p : Poller} {now : Nat} {t : PollTimer}
    (ht : t ∈ p.timers.filter (now < ·.deadline)) : t.fire now = (0, t) :=
  PollTimer.fire_of_lt (by simpa using (List.mem_filter.mp ht).2)

theorem waiting_append_due_perm (p : Poller) (now : Nat) :
    (p.timers.filter (now < ·.deadline) ++ p.due now).Perm p.timers := by
  have hnot : (fun t : PollTimer => decide (now < t.deadline)) =
      fun t => !decide (t.deadline ≤ now) := by
    funext t
    rw [← decide_not, decide_eq_decide]
    exact Nat.not_le.symm
  rw [hnot]
  exact (List.perm_append_comm.trans ((List.mergeSort_perm _ _).append_right _)).trans
    (List.filter_append_perm _ _)

/-- All timers are run; that changes nothing for those that are not due. -/
theorem timers_fire_perm (p : Poller) (now : Nat) :
    (p.fire now).2.timers.Perm (p.timers.map fun t => (t.fire now).2) := by
  have hwaiting : (p.timers.filter (now < ·.deadline)).map (fun t => (t.fire now).2) =
      p.timers.filter (now < ·.deadline) := by
    conv_rhs => rw [← List.map_id (p.timers.filter _)]
    refine List.map_congr_left fun t ht => ?_
    rw [fire_of_mem_waiting ht]
    rfl
  have hall := (p.waiting_append_due_perm now).map fun t => (t.fire now).2
  rw [List.map_append, hwaiting] at hall
  simpa only [fire, List.map_map, Function.comp_def] using hall

theorem polls_fire_perm (p : Poller) (now : Nat) :
    (p.fire now).1.Perm (p.timers.flatMap (pollsOf now)) := by
  have hwaiting : (p.timers.filter (now < ·.deadline)).flatMap (pollsOf now) = [] := by
    refine List.flatMap_eq_nil_iff.mpr fun t ht => ?_
    rw [pollsOf, fire_of_mem_waiting ht]
    rfl
  have hall := (p.waiting_append_due_perm now).flatMap_right (pollsOf now)
  rw [List.flatMap_append, hwaiting, List.nil_append] at hall
  simp only [fire, List.flatMap_map]
  exact hall

/-- If no endpoint has two timers, each timer polls for itself. -/
theorem count_polls_fire {p : Poller} {t : PollTimer} (ht : t ∈ p.timers)
    (hnodup : (p.timers.map (·.endpoint)).Nodup) (now : Nat) :
    (p.fire now).1.count t.endpoint = (t.fire now).1 := by
  rw [(p.polls_fire_perm now).count_eq]
  generalize p.timers = timers at ht hnodup
  have hself : (pollsOf now t).count t.endpoint = (t.fire now).1 := List.count_replicate_self ..
  have hother (u : PollTimer) (hu : u.endpoint ≠ t.endpoint) :
      (pollsOf now u).count t.endpoint = 0 := by
    rw [pollsOf, List.count_replicate, if_neg (by simpa using hu)]
  induction timers with
  | nil => cases ht
  | cons u rest ih =>
      obtain ⟨hu, hrest⟩ := List.nodup_cons.mp hnodup
      rw [List.flatMap_cons, List.count_append]
      rcases List.mem_cons.mp ht with rfl | ht
      · have hnone : (rest.flatMap (pollsOf now)).count t.endpoint = 0 := by
          refine List.count_eq_zero.mpr fun hmem => ?_
          obtain ⟨v, hv, hmem⟩ := List.mem_flatMap.mp hmem
          exact hu (List.mem_map.mpr ⟨v, hv, (List.eq_of_mem_replicate hmem).symm⟩)
        rw [hself, hnone, Nat.add_zero]
      · have hne : u.endpoint ≠ t.endpoint :=
          fun heq => hu (List.mem_map.mpr ⟨t, ht, heq.symm⟩)
        rw [hother u hne, Nat.zero_add, ih ht hrest]

/-- The timer of a schedule, when all timers are run: it is set for the first multiple of its period
that is to come, and the polls of its endpoint keep up with the multiples or stay behind them. -/
theorem fire_spec {p : Poller} (hnodup : (p.timers.map (·.endpoint)).Nodup) {t : PollTimer}
    (ht : t ∈ p.timers) {s : PollSchedule} (hs : t.schedule = s) {now origin k : Nat}
    (hgrid : t.deadline = origin + k * s.period) (horigin : origin ≤ now)
    (hnear : t.deadline ≤ now + s.period) :
    (∃ u ∈ (p.fire now).2.timers, u.schedule = s ∧
        u.deadline = origin + PollTimer.dueBy s.period (now - origin) * s.period) ∧
      (p.fire now).1.count s.endpoint + k ≤ PollTimer.dueBy s.period (now - origin) ∧
      (now ≤ t.deadline →
        (p.fire now).1.count s.endpoint + k = PollTimer.dueBy s.period (now - origin)) := by
  subst hs
  obtain ⟨hdeadline, hcount⟩ := t.fire_spec hgrid horigin hnear
  rw [show t.schedule.endpoint = t.endpoint from rfl, count_polls_fire ht hnodup]
  refine ⟨⟨(t.fire now).2, ?_, t.schedule_fire now, hdeadline⟩, hcount⟩
  exact (p.timers_fire_perm now).mem_iff.mpr (List.mem_map_of_mem ht)

theorem lt_deadline_of_mem_fire {p : Poller} {now : Nat} :
    ∀ t ∈ (p.fire now).2.timers, now < t.deadline := by
  intro t ht
  obtain ⟨u, -, rfl⟩ := List.mem_map.mp ((p.timers_fire_perm now).mem_iff.mp ht)
  exact u.lt_deadline_fire now

/-- Between its deadlines a poller does nothing. -/
theorem fire_of_forall_lt {p : Poller} {now : Nat} (h : ∀ t ∈ p.timers, now < t.deadline) :
    p.fire now = ([], p) := by
  have hwaiting : p.timers.filter (now < ·.deadline) = p.timers :=
    List.filter_eq_self.mpr fun t ht => decide_eq_true (h t ht)
  have hdue : p.due now = [] := by
    have hnone : p.timers.filter (·.deadline ≤ now) = [] :=
      List.filter_eq_nil_iff.mpr fun t ht => by simpa using h t ht
    rw [due, hnone, List.mergeSort_nil]
  simp only [fire, hdue, hwaiting, List.map_nil, List.flatMap_nil, List.append_nil]

/-! ### Timers and endpoints -/

/-- A timer polls the endpoint. -/
def HasTimer (p : Poller) (e : Endpoint) : Prop :=
  ∃ t ∈ p.timers, t.endpoint = e

theorem HasTimer.fire {p : Poller} {e : Endpoint} (h : p.HasTimer e) (now : Nat) :
    (p.fire now).2.HasTimer e := by
  obtain ⟨t, ht, rfl⟩ := h
  refine ⟨(t.fire now).2, ?_, congrArg (·.endpoint) (t.schedule_fire now)⟩
  exact (p.timers_fire_perm now).mem_iff.mpr (List.mem_map_of_mem ht)

/-- Only endpoints that have a timer are polled. -/
theorem hasTimer_of_mem_fire {p : Poller} {e : Endpoint} {now : Nat} (h : e ∈ (p.fire now).1) :
    p.HasTimer e := by
  obtain ⟨t, ht, hpolls⟩ := List.mem_flatMap.mp ((p.polls_fire_perm now).mem_iff.mp h)
  exact ⟨t, ht, (List.eq_of_mem_replicate hpolls).symm⟩

/-! ### Timers and schedules -/

/-- A poller that is running has a timer for each schedule that has a period, and no other. -/
def Scheduled (p : Poller) : Prop :=
  p.timers = [] ∨ (p.timers.map (·.schedule)).Perm (p.schedules.filter (0 < ·.period))

theorem isRunning_eq_false {p : Poller} : p.isRunning = false ↔ p.timers = [] := by
  simp [isRunning]

theorem schedules_start (p : Poller) (now : Nat) : (p.start now).schedules = p.schedules := by
  unfold start
  split <;> rfl

theorem timers_start {p : Poller} (h : p.timers = []) (now : Nat) :
    (p.start now).timers = p.schedules.filterMap (timer? now) := by
  rw [start, isRunning, h]
  rfl

theorem start_of_isRunning {p : Poller} (h : p.isRunning = true) (now : Nat) : p.start now = p :=
  if_pos h

theorem schedule_filterMap_timer? (schedules : List PollSchedule) (now : Nat) :
    (schedules.filterMap (timer? now)).map (·.schedule) = schedules.filter (0 < ·.period) := by
  rw [List.map_filterMap, ← List.filterMap_eq_filter]
  refine List.filterMap_congr fun s _ => ?_
  unfold timer?
  split <;> simp_all [PollTimer.schedule, Option.guard]

theorem schedule_fire_perm (p : Poller) (now : Nat) :
    ((p.fire now).2.timers.map (·.schedule)).Perm (p.timers.map (·.schedule)) := by
  have hmap := (p.timers_fire_perm now).map (·.schedule)
  simpa only [List.map_map, Function.comp_def, PollTimer.schedule_fire] using hmap

theorem HasTimer.start {p : Poller} {e : Endpoint} (h : p.HasTimer e) (now : Nat) :
    (p.start now).HasTimer e := by
  have hrunning : p.isRunning = true := by
    obtain ⟨t, ht, -⟩ := h
    exact decide_eq_true (List.ne_nil_of_mem ht)
  rwa [start_of_isRunning hrunning]

namespace Scheduled

variable {p : Poller}

theorem fire (h : p.Scheduled) (now : Nat) : (p.fire now).2.Scheduled := by
  have hperm := p.schedule_fire_perm now
  rcases h with h | h
  · rw [h] at hperm
    exact .inl (List.map_eq_nil_iff.mp hperm.eq_nil)
  · exact .inr (hperm.trans h)

theorem start (h : p.Scheduled) (now : Nat) : (p.start now).Scheduled := by
  by_cases hrunning : p.isRunning = true
  · rwa [start_of_isRunning hrunning]
  · have hnone := isRunning_eq_false.mp (Bool.eq_false_iff.mpr hrunning)
    refine .inr (List.Perm.of_eq ?_)
    rw [timers_start hnone, schedule_filterMap_timer?, schedules_start]

theorem subperm (h : p.Scheduled) : (p.timers.map (·.schedule)).Subperm p.schedules := by
  rcases h with hnone | hperm
  · rw [hnone]
    exact List.nil_subperm
  · exact hperm.subperm.trans List.filter_sublist.subperm

theorem nodup_endpoints (h : p.Scheduled) (hnodup : (p.schedules.map (·.endpoint)).Nodup) :
    (p.timers.map (·.endpoint)).Nodup := by
  obtain ⟨l, hperm, hsub⟩ := h.subperm
  have hall := (hperm.map (·.endpoint)).nodup_iff.mp (hnodup.sublist (hsub.map _))
  rwa [List.map_map] at hall

end Scheduled

theorem deadline_of_mem_start {p : Poller} (h : p.timers = []) (now : Nat) :
    ∀ t ∈ (p.start now).timers, t.deadline = now := by
  rw [timers_start h]
  intro t ht
  obtain ⟨s, -, hs⟩ := List.mem_filterMap.mp ht
  unfold timer? at hs
  split at hs
  · cases hs
    rfl
  · cases hs

/-- A poller that is started polls for each schedule at once. -/
theorem polls_start {p : Poller} (h : p.timers = []) (now : Nat) :
    ((p.start now).fire now).1 = (p.schedules.filter (0 < ·.period)).map (·.endpoint) := by
  have hnow := deadline_of_mem_start h now
  have hdue : (p.start now).due now = (p.start now).timers := by
    have hfilter : (p.start now).timers.filter (·.deadline ≤ now) = (p.start now).timers :=
      List.filter_eq_self.mpr fun t ht => decide_eq_true (Nat.le_of_eq (hnow t ht))
    rw [due, hfilter]
    refine List.mergeSort_of_pairwise (List.pairwise_of_forall_mem_list fun t ht u hu => ?_)
    rw [hnow t ht, hnow u hu]
    exact decide_eq_true (Nat.le_refl now)
  have honce : ∀ t ∈ (p.start now).timers, pollsOf now t = [t.schedule.endpoint] := by
    intro t ht
    rw [pollsOf, PollTimer.fire_of_eq (hnow t ht)]
    rfl
  calc ((p.start now).fire now).1
      = (p.start now).timers.flatMap (pollsOf now) := by
        simp only [Poller.fire, hdue, List.flatMap_map]
        rfl
    _ = (p.start now).timers.flatMap fun t => [t.schedule.endpoint] := List.flatMap_congr honce
    _ = (p.schedules.filter (0 < ·.period)).map (·.endpoint) := by
        rw [← schedule_filterMap_timer? p.schedules now, ← timers_start h, List.map_map]
        exact List.map_eq_flatMap.symm

end Poller

end DetectorDashboard
