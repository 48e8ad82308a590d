import DetectorDashboard.Proofs.JobKeeping

/-! How jobs come to their end. A job has come exactly as far as its own calls have been answered,
whatever else happens: it waits until the last of them has been, and then it is finished, once. -/

namespace DetectorDashboard

namespace Application

theorem exists_of_mem_resolutions {a : Application} {event : Event} {r : Resolution}
    (hr : r ∈ a.resolutions event) :
    ∃ now id, event = .deliver now id r.reply ∧
      a.pending.find? (·.id = id) = some r.toPendingCall := by
  cases event with
  | deliver now id reply =>
      obtain ⟨p, hp, rfl⟩ := List.mem_map.mp hr
      exact ⟨now, id, rfl, Option.mem_toList.mp hp⟩
  | _ => cases hr

/-! ### Other jobs -/

/-- A job stands where it stood. -/
structure Stands (job : Nat) (a b : Application) : Prop where
  waiting_eq : b.waiting job = a.waiting job
  outcomes_eq : b.outcomes job = a.outcomes job
  owed_eq : b.owed job = a.owed job

theorem nextJob_le_step (a : Application) (event : Event) : a.nextJob ≤ (a.step event).nextJob := by
  rcases step_jobs a event with hopens | hsame | ⟨b, job, answer, hsame, hsettle⟩
  · exact hopens.next_le
  · exact Nat.le_of_eq hsame.next_eq.symm
  · exact Nat.le_of_eq (by rw [hsettle, nextJob_settle, hsame.next_eq])

/-- An answer that is not for a job leaves the job where it stood. -/
theorem stands_step_deliver {a : Application} (hnodup : (a.pending.map (·.id)).Nodup) {job id : Nat}
    (hother : ∀ p, a.pending.find? (·.id = id) = some p → p.purpose.job? ≠ some job)
    (now : Timestamp) (reply : Reply) : Stands job a (a.step (.deliver now id reply)) := by
  have howed : (a.step (.deliver now id reply)).owed job = a.owed job := by
    rw [owed_step_deliver, List.filter_eq_self]
    intro q hq
    obtain ⟨hq, hjob⟩ := List.mem_filter.mp hq
    rw [decide_eq_true_eq] at hjob ⊢
    rintro rfl
    exact hother q (find?_eq_of_mem hnodup hq) hjob
  by_cases hmine : ∃ p job, a.pending.find? (·.id = id) = some p ∧ p.purpose.job? = some job
  · obtain ⟨p, other, hfind, hp⟩ := hmine
    have hne : job ≠ other := fun heq => hother p hfind (heq ▸ hp)
    have hsame := sameJobs_enactAll a (a.effects (.deliver now id reply))
    obtain ⟨answer, hstep, -⟩ := step_deliver_eq_settle hfind hp now reply
    obtain ⟨hwaiting, houtcomes⟩ := settle_other
      (a.enactAll (a.effects (.deliver now id reply))) hne answer
    rw [← hstep] at hwaiting houtcomes
    exact ⟨hwaiting.trans (hsame.waiting_eq job), houtcomes.trans (hsame.outcomes_eq job), howed⟩
  · have hsame : SameJobs a (a.step (.deliver now id reply)) :=
      sameJobs_step_deliver (fun p hfind => Option.eq_none_iff_forall_not_mem.mpr
        fun job hjob => hmine ⟨p, job, hfind, hjob⟩) now reply
    exact ⟨hsame.waiting_eq job, hsame.outcomes_eq job, howed⟩

/-- A job moves only when it is opened or when one of its calls is answered. -/
theorem stands_step {a : Application} (hnodup : (a.pending.map (·.id)).Nodup) {event : Event}
    {job : Nat} (hjob : job ≠ a.nextJob ∨ (a.step event).nextJob ≤ job)
    (hother : ∀ r ∈ a.resolutions event, r.purpose.job? ≠ some job) :
    Stands job a (a.step event) := by
  by_cases hevent : ∃ now id reply, event = .deliver now id reply
  · obtain ⟨now, id, reply, rfl⟩ := hevent
    refine stands_step_deliver hnodup (fun p hfind => ?_) now reply
    exact hother ⟨p, reply⟩ (List.mem_map_of_mem (Option.mem_toList.mpr hfind))
  · have hno : ∀ now id reply, event ≠ .deliver now id reply :=
      fun now id reply heq => hevent ⟨now, id, reply, heq⟩
    have hopens := opens_step (a := a) hno
    have howed := owed_step (a := a) hno job
    by_cases hne : job = a.nextJob
    · -- the next job is still the next one, so that none has been opened
      cases hopens with
      | none hsame heffects =>
          refine ⟨hsame.waiting_eq job, hsame.outcomes_eq job, ?_⟩
          rw [howed, if_pos hne, List.filter_eq_nil_iff.mpr fun p hp => ?_, List.append_nil]
          obtain ⟨effect, heffect, hpurpose⟩ := exists_effect_of_mem_sentAll hp
          rw [hpurpose, heffects effect heffect]
          simp
      | waits goal owed hjobs hfinished hnext => omega
      | finishes outcome hjobs hfinished hnext => omega
    · obtain ⟨hwaiting, houtcomes⟩ := hopens.other hne
      rw [if_neg hne, List.append_nil] at howed
      exact ⟨hwaiting, houtcomes, howed⟩

/-! ### The next job -/

theorem nextJob_startJob (a : Application) (goal : Goal) (owed : Nat) :
    (a.startJob goal owed).nextJob = a.nextJob + 1 := by
  unfold startJob
  split <;> rfl

/-- The numbers of all jobs are below the next one. -/
structure Started (a : Application) : Prop where
  waiting : ∀ job, a.nextJob ≤ job → a.waiting job = []
  outcomes : ∀ job, a.nextJob ≤ job → a.outcomes job = []
  owed : ∀ job, a.nextJob ≤ job → a.owed job = []

namespace Started

variable {a : Application}

theorem ofSettings (settings : Settings) (sizes : Sizes) : Started (.ofSettings settings sizes) :=
  ⟨fun _ _ => rfl, fun _ _ => rfl, fun _ _ => rfl⟩

/-- A call that is pending was made for a job that has been opened. -/
theorem job_lt (h : Started a) {p : PendingCall} (hp : p ∈ a.pending) {job : Nat}
    (hjob : p.purpose.job? = some job) : job < a.nextJob := by
  by_contra hle
  have hmem : p ∈ a.owed job := List.mem_filter.mpr ⟨hp, decide_eq_true hjob⟩
  rw [h.owed job (Nat.le_of_not_lt hle)] at hmem
  cases hmem

/-- The next job is owed just the calls that an event makes for it. -/
theorem owed_step (h : Started a) {event : Event}
    (hevent : ∀ now id reply, event ≠ .deliver now id reply) {calls : List (Purpose × Call)}
    (hsent : (a.sentAll (a.effects event)).map (fun p => (p.purpose, p.call)) = calls)
    (hjob : ∀ c ∈ calls, c.1.job? = some a.nextJob) :
    ((a.step event).owed a.nextJob).map (fun p => (p.purpose, p.call)) = calls := by
  have hall : (a.sentAll (a.effects event)).filter (·.purpose.job? = some a.nextJob) =
      a.sentAll (a.effects event) := by
    refine List.filter_eq_self.mpr fun p hp => decide_eq_true ?_
    exact hjob (p.purpose, p.call) (hsent ▸ List.mem_map_of_mem hp)
  rw [Application.owed_step hevent, if_pos rfl, h.owed _ (Nat.le_refl _), List.nil_append, hall,
    hsent]

theorem waiting_complete (h : Started a) (outcome : Outcome) :
    (a.complete outcome).waiting a.nextJob = [] :=
  h.waiting a.nextJob (Nat.le_refl _)

theorem outcomes_complete (h : Started a) (outcome : Outcome) :
    (a.complete outcome).outcomes a.nextJob = [outcome] := by
  rw [complete, outcomes_finish, if_pos rfl]
  exact congrArg (· ++ [outcome]) (h.outcomes a.nextJob (Nat.le_refl _))

/-- A job that is owed answers waits for them. -/
theorem waiting_startJob (h : Started a) (goal : Goal) {owed : Nat} (howed : owed ≠ 0) :
    (a.startJob goal owed).waiting a.nextJob = [⟨a.nextJob, goal, owed, 0⟩] := by
  rw [startJob, if_neg howed, Application.waiting, List.filter_append]
  exact congrArg (· ++ _) (h.waiting a.nextJob (Nat.le_refl _)) |>.trans (by simp)

theorem outcomes_startJob (h : Started a) (goal : Goal) {owed : Nat} (howed : owed ≠ 0) :
    (a.startJob goal owed).outcomes a.nextJob = [] := by
  rw [startJob, if_neg howed]
  exact h.outcomes a.nextJob (Nat.le_refl _)

theorem step (h : Started a) (hnodup : (a.pending.map (·.id)).Nodup) (event : Event) :
    Started (a.step event) := by
  have hle := a.nextJob_le_step event
  have hstands (job : Nat) (hjob : (a.step event).nextJob ≤ job) :
      Stands job a (a.step event) := by
    refine stands_step hnodup (.inr hjob) fun r hr hr' => ?_
    obtain ⟨now, id, -, hfind⟩ := exists_of_mem_resolutions hr
    have hlt := h.job_lt (List.mem_of_find?_eq_some hfind) hr'
    omega
  constructor <;> intro job hjob
  · rw [(hstands job hjob).waiting_eq, h.waiting job (Nat.le_trans hle hjob)]
  · rw [(hstands job hjob).outcomes_eq, h.outcomes job (Nat.le_trans hle hjob)]
  · rw [(hstands job hjob).owed_eq, h.owed job (Nat.le_trans hle hjob)]

end Started

theorem started_run (settings : Settings) (sizes : Sizes) (events : List Event) :
    Started ((ofSettings settings sizes).run events) := by
  exact (@along_induction _ resolutions (fun a resolved =>
    Numbered a.calls a.dashboard.gates (a.known resolved) ∧ Started a) events _ []
    (fun event _ _ _ h => ⟨numbered_step h.1 event, h.2.step (nodup_pending h.1) event⟩)
    ⟨.empty, .ofSettings settings sizes⟩).2

/-! ### The way of a job -/

/-- An entry is found once under its key. -/
theorem perm_cons_filter_ne {pending : List PendingCall} (hnodup : (pending.map (·.id)).Nodup)
    {p : PendingCall} (hp : p ∈ pending) :
    (p :: pending.filter (·.id ≠ p.id)).Perm pending := by
  have hrest : p ∉ pending.filter (·.id ≠ p.id) := by simp
  refine (List.perm_ext_iff_of_nodup (List.nodup_cons.mpr ⟨hrest, hnodup.of_map.filter _⟩)
    hnodup.of_map).mpr fun q => ?_
  rw [List.mem_cons, List.mem_filter, decide_eq_true_eq]
  constructor
  · rintro (rfl | ⟨hq, -⟩)
    · exact hp
    · exact hq
  · intro hq
    by_cases hid : q.id = p.id
    · exact .inl (List.inj_on_of_nodup_map hnodup hq hp hid)
    · exact .inr ⟨hq, hid⟩

/-- How far a job has come that was opened with some calls: `answers` are the answers to them so
far. As long as one is missing it waits, and it counts the failures. -/
structure Progress (job : Nat) (goal : Goal) (calls : List PendingCall) (a : Application)
    (answers : List Resolution) : Prop where
  started : job < a.nextJob
  perm : (answers.map (·.toPendingCall) ++ a.owed job).Perm calls
  unfinished : a.owed job ≠ [] →
    a.waiting job = [⟨job, goal, (a.owed job).length, answers.countP (·.failed)⟩] ∧
      a.outcomes job = []
  finished : a.owed job = [] →
    a.waiting job = [] ∧
      ∃ answer, a.outcomes job = [goal.outcome answer (answers.countP (·.failed))]

theorem SameJobs.startJob {a b : Application} (h : SameJobs a b) (goal : Goal) (owed : Nat) :
    SameJobs (a.startJob goal owed) (b.startJob goal owed) := by
  unfold Application.startJob
  split
  · exact ⟨h.jobs_eq, by simp only [finish, h.finished_eq, h.next_eq],
      by simp only [finish, h.next_eq]⟩
  · exact ⟨by simp only [h.jobs_eq, h.next_eq], h.finished_eq, by simp only [h.next_eq]⟩

namespace Progress

variable {job : Nat} {goal : Goal} {calls : List PendingCall} {a b : Application}
  {answers : List Resolution}

/-- A job that has just been opened. One without calls is finished already. -/
theorem start (h : Started a) (hb : SameJobs (a.startJob goal (b.owed a.nextJob).length) b) :
    Progress a.nextJob goal (b.owed a.nextJob) b [] := by
  have hwaiting := hb.waiting_eq a.nextJob
  have houtcomes := hb.outcomes_eq a.nextJob
  refine ⟨?_, .rfl, fun hrest => ?_, fun hnil => ?_⟩
  · rw [hb.next_eq, nextJob_startJob]
    exact Nat.lt_succ_self _
  · have howed : (b.owed a.nextJob).length ≠ 0 := mt List.length_eq_zero_iff.mp hrest
    rw [hwaiting, houtcomes]
    exact ⟨h.waiting_startJob goal howed, h.outcomes_startJob goal howed⟩
  · rw [hnil] at hwaiting houtcomes
    exact ⟨hwaiting.trans (h.waiting_complete _), .ok true,
      houtcomes.trans (h.outcomes_complete _)⟩

theorem of_stands (h : Progress job goal calls a answers) (hle : a.nextJob ≤ b.nextJob)
    (hstands : Stands job a b) : Progress job goal calls b answers where
  started := Nat.lt_of_lt_of_le h.started hle
  perm := hstands.owed_eq ▸ h.perm
  unfinished := by
    rw [hstands.owed_eq, hstands.waiting_eq, hstands.outcomes_eq]
    exact h.unfinished
  finished := by
    rw [hstands.owed_eq, hstands.waiting_eq, hstands.outcomes_eq]
    exact h.finished

/-- An answer that the job waits for. -/
theorem step_deliver (h : Progress job goal calls a answers)
    (hnodup : (a.pending.map (·.id)).Nodup) {id : Nat} {p : PendingCall}
    (hfind : a.pending.find? (·.id = id) = some p) (hjob : p.purpose.job? = some job)
    (now : Timestamp) (reply : Reply) :
    Progress job goal calls (a.step (.deliver now id reply)) (answers ++ [⟨p, reply⟩]) := by
  obtain rfl : p.id = id := of_decide_eq_true (List.find?_some hfind :)
  have hp : p ∈ a.owed job :=
    List.mem_filter.mpr ⟨List.mem_of_find?_eq_some hfind, decide_eq_true hjob⟩
  obtain ⟨hwaiting, houtcomes⟩ := h.unfinished (List.ne_nil_of_mem hp)
  have howed : (p :: (a.step (.deliver now p.id reply)).owed job).Perm (a.owed job) := by
    rw [owed_step_deliver]
    exact perm_cons_filter_ne (hnodup.sublist (List.filter_sublist.map _)) hp
  have hlength := howed.length_eq
  obtain ⟨answer, hstep, hanswer⟩ := step_deliver_eq_settle hfind hjob now reply
  have hsame := sameJobs_enactAll a (a.effects (.deliver now p.id reply))
  have hfailures :
      failuresAfter ⟨job, goal, (a.owed job).length, answers.countP Resolution.failed⟩ answer =
        (answers ++ [(⟨p, reply⟩ : Resolution)]).countP Resolution.failed := by
    rw [failuresAfter, hanswer, List.countP_append, List.countP_singleton]
    cases Resolution.failed ⟨p, reply⟩ <;> rfl
  rw [← hsame.waiting_eq] at hwaiting
  rw [← hsame.outcomes_eq] at houtcomes
  refine ⟨Nat.lt_of_lt_of_le h.started (a.nextJob_le_step _), ?_, fun hrest => ?_, fun hnil => ?_⟩
  · rw [List.map_append, List.append_assoc]
    exact (howed.append_left _).trans h.perm
  · have hmore : ¬ (a.owed job).length ≤ 1 := by
      have := List.length_pos_iff.mpr hrest
      rw [← hlength, List.length_cons]
      omega
    obtain ⟨hnoted, hsettled⟩ := settle_early hwaiting hmore answer
    rw [← hstep] at hnoted hsettled
    refine ⟨?_, hsettled.trans houtcomes⟩
    rw [hnoted, noted, hfailures, ← hlength]
    rfl
  · have hlast : (a.owed job).length ≤ 1 := by rw [← hlength, hnil]; exact Nat.le_refl _
    obtain ⟨hforgotten, hsettled⟩ := settle_last hwaiting hlast answer
    rw [← hstep, houtcomes, hfailures] at hsettled
    rw [← hstep] at hforgotten
    exact ⟨hforgotten, answer, hsettled⟩

theorem step (h : Progress job goal calls a answers) (hnodup : (a.pending.map (·.id)).Nodup)
    (event : Event) :
    Progress job goal calls (a.step event)
      (answers ++ (a.resolutions event).filter (·.purpose.job? = some job)) := by
  by_cases hmine : ∃ r ∈ a.resolutions event, r.purpose.job? = some job
  · obtain ⟨r, hr, hjob⟩ := hmine
    obtain ⟨now, id, rfl, hfind⟩ := exists_of_mem_resolutions hr
    have hresolutions : a.resolutions (.deliver now id r.reply) = [r] := by
      rw [resolutions, hfind]
      rfl
    rw [hresolutions, List.filter_cons_of_pos (by simpa using hjob), List.filter_nil]
    exact h.step_deliver hnodup hfind hjob now r.reply
  · have hother : ∀ r ∈ a.resolutions event, r.purpose.job? ≠ some job :=
      fun r hr hjob => hmine ⟨r, hr, hjob⟩
    rw [List.filter_eq_nil_iff.mpr fun r hr => by simpa using hother r hr, List.append_nil]
    exact h.of_stands (a.nextJob_le_step event)
      (stands_step hnodup (.inl (Nat.ne_of_lt h.started)) hother)

/-- In every run a job has come as far as its calls have been answered. -/
theorem run (h : Progress job goal calls a [])
    {resolved : List Resolution} (hnumbered : Numbered a.calls a.dashboard.gates (a.known resolved))
    (events : List Event) :
    Progress job goal calls (a.run events)
      ((along resolutions a events).filter (·.purpose.job? = some job)) := by
  refine (@along_induction _ resolutions (fun b seen =>
    (∃ resolved, Numbered b.calls b.dashboard.gates (b.known resolved)) ∧
      Progress job goal calls b (seen.filter (·.purpose.job? = some job))) events a []
    (fun event _ b seen hb => ?_) ⟨⟨resolved, hnumbered⟩, h⟩).2
  obtain ⟨⟨resolved, hnumbered⟩, hprogress⟩ := hb
  refine ⟨⟨_, numbered_step hnumbered event⟩, ?_⟩
  rw [List.filter_append]
  exact hprogress.step (nodup_pending hnumbered) event

end Progress

end Application

end DetectorDashboard
