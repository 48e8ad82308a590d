import DetectorDashboard.Proofs.SentCalls

/-! The keeping of jobs. What happens to a job is seen under its number: the calls whose answers it
waits for, the record of it while it waits, and its outcome. An event that is no answer opens at
most one job, the next; an answer settles the job of its call, and that after everything else it
does. -/

namespace DetectorDashboard

/-- The job that waits for the answer to a call, if the call was made for one. -/
def Purpose.job? : Purpose → Option Nat
  | .status _ _ job => some job
  | .write job => some job
  | .poll .. | .abandoned => none

def Effect.job? : Effect → Option Nat
  | .ask _ job => job
  | .write _ job => some job
  | _ => none

namespace Resolution

/-- Whether the job of the call counts the answer among its failures. An answer that is stale is no
failure. -/
def failed (r : Resolution) : Bool :=
  match r.reply, r.purpose.request? with
  | .error _, _ => true
  | .ok body, some (endpoint, _) => !(StatusResponse.decode endpoint body).isOk
  | .ok _, none => false

end Resolution

theorem Effect.job?_sent? {a : Application} {effect : Effect} {p : PendingCall}
    (hp : effect.sent? a = some p) : p.purpose.job? = effect.job? := by
  cases effect with
  | ask endpoint job =>
      obtain rfl := Option.some.inj hp
      cases job <;> rfl
  | write request job =>
      obtain rfl := Option.some.inj hp
      rfl
  | _ => cases hp

namespace Application

/-- The pending calls that were made for a job. -/
def owed (a : Application) (job : Nat) : List PendingCall :=
  a.pending.filter (·.purpose.job? = some job)

/-- The record of a job, as long as it waits. -/
def waiting (a : Application) (job : Nat) : List Job :=
  a.jobs.filter (·.id = job)

/-- What has come of a job. -/
def outcomes (a : Application) (job : Nat) : List Outcome :=
  (a.finished.toList.filter (·.1 = job)).map (·.2)

theorem outcomes_finish (a : Application) (job : Nat) (outcome : Outcome) (other : Nat) :
    (a.finish job outcome).outcomes other =
      a.outcomes other ++ if job = other then [outcome] else [] := by
  rw [outcomes, finish, Array.toList_push, List.filter_append, List.map_append]
  by_cases h : job = other <;> simp [h, outcomes]

/-! ### Calls that are made for a job -/

theorem owed_enact {a : Application} {effect : Effect} (h : ∀ id, effect ≠ .close id) (job : Nat) :
    (a.enact effect).owed job =
      a.owed job ++ (effect.sent? a).toList.filter (·.purpose.job? = some job) := by
  have hkeep : (effect.keep a.poller.timers a.pending).filter (·.purpose.job? = some job) =
      a.owed job := by
    cases effect with
    | close id => exact absurd rfl (h id)
    | abandonPolls =>
        rw [Effect.keep, owed, List.filter_map]
        have habandon (p : PendingCall) :
            (abandonPoll a.poller.timers p).purpose.job? = p.purpose.job? ∧
              (p.purpose.job? = some job → abandonPoll a.poller.timers p = p) := by
          rcases abandonPoll_eq a.poller.timers p with hsame | ⟨⟨endpoint, seq, hpoll⟩, hgone⟩
          · rw [hsame]
            exact ⟨rfl, fun _ => rfl⟩
          · rw [hgone, hpoll]
            exact ⟨rfl, fun hjob => by cases hjob⟩
        have hsame : ((fun p : PendingCall => decide (p.purpose.job? = some job)) ∘
            abandonPoll a.poller.timers) = fun p => decide (p.purpose.job? = some job) :=
          funext fun p => by rw [Function.comp_apply, (habandon p).1]
        rw [hsame]
        refine (List.map_congr_left fun p hp => ?_).trans (List.map_id _)
        exact (habandon p).2 (of_decide_eq_true (List.mem_filter.mp hp).2)
    | _ => rfl
  rw [owed, pending_enact, List.filter_append, hkeep]

theorem owed_enactAll {a : Application} {effects : List Effect}
    (h : ∀ effect ∈ effects, ∀ id, effect ≠ .close id) (job : Nat) :
    (a.enactAll effects).owed job =
      a.owed job ++ (a.sentAll effects).filter (·.purpose.job? = some job) := by
  induction effects generalizing a with
  | nil => exact (List.append_nil _).symm
  | cons effect rest ih =>
      rw [enactAll_cons, ih fun e he => h e (List.mem_cons_of_mem _ he),
        owed_enact (h effect List.mem_cons_self), sentAll, List.filter_append, List.append_assoc]

theorem exists_effect_of_mem_sentAll {a : Application} {effects : List Effect} {p : PendingCall}
    (hp : p ∈ a.sentAll effects) : ∃ effect ∈ effects, p.purpose.job? = effect.job? := by
  induction effects generalizing a with
  | nil => cases hp
  | cons effect rest ih =>
      rcases List.mem_append.mp hp with hp | hp
      · exact ⟨effect, List.mem_cons_self, Effect.job?_sent? (Option.mem_toList.mp hp)⟩
      · obtain ⟨e, he, hjob⟩ := ih hp
        exact ⟨e, List.mem_cons_of_mem _ he, hjob⟩

/-- Calls are made for the next job only. -/
theorem job?_of_mem_effects {a : Application} {event : Event} :
    ∀ effect ∈ a.effects event, ∀ job ∈ effect.job?, job = a.nextJob := by
  have hnavigation (fragment : String) :
      ∀ effect ∈ a.navigationEffects fragment, ∀ job ∈ effect.job?, job = a.nextJob := by
    unfold navigationEffects
    split <;> simp [Effect.job?]
  have hcommand (command : Command) :
      ∀ effect ∈ a.commandEffects command, ∀ job ∈ effect.job?, job = a.nextJob := by
    simp [commandEffects, Effect.job?]
  cases event with
  | request endpoint goal => simp [effects, Effect.job?]
  | navigate fragment goal => exact hnavigation fragment
  | command command goal => exact hcommand command
  | refuse error => simp [effects, refusalEffects, Effect.job?]
  | serve request =>
      simp only [effects]
      cases Http.Handler.ofRequest request with
      | error refusal => simp
      | ok handler =>
          cases handler with
          | navigate fragment => exact hnavigation fragment
          | submit input =>
              cases input with
              | ok command => exact hcommand command
              | error error => simp [handlerEffects, refusalEffects, Effect.job?]
          | _ => simp [handlerEffects, Effect.job?]
  | startPolling => simp [effects, tickEffects, Effect.job?]
  | stopPolling => simp [effects, Effect.job?]
  | stall time => simp [effects, tickEffects, Effect.job?]
  | deliver now id reply =>
      simp only [effects]
      cases a.pending.find? (·.id = id) with
      | none => simp
      | some p =>
          rw [List.forall_mem_cons]
          refine ⟨?_, forall_mem_answerEffects (fun _ => ?_) fun _ _ => ?_⟩ <;> simp [Effect.job?]

theorem not_close_of_mem_effects {a : Application} {event : Event}
    (hevent : ∀ now id reply, event ≠ .deliver now id reply) :
    ∀ effect ∈ a.effects event, ∀ id, effect ≠ .close id := by
  rintro effect heffect id rfl
  cases mayHave_of_mem_effects _ heffect with
  | close p hp now reply => exact hevent now p.id reply rfl

/-- What is no answer lets a job that is under way wait for the same calls as before. -/
theorem owed_step {a : Application} {event : Event}
    (hevent : ∀ now id reply, event ≠ .deliver now id reply) (job : Nat) :
    (a.step event).owed job = a.owed job ++
      if job = a.nextJob then a.sentAll (a.effects event) |>.filter (·.purpose.job? = some job)
      else [] := by
  refine step_of_enactAll (P := fun b => b.owed job = _) (fun _ => Iff.rfl) ?_
  rw [owed_enactAll (not_close_of_mem_effects hevent)]
  split
  · rfl
  · rename_i hother
    refine congrArg (a.owed job ++ ·) (List.filter_eq_nil_iff.mpr fun p hp => ?_)
    obtain ⟨effect, heffect, hpurpose⟩ := exists_effect_of_mem_sentAll hp
    rw [hpurpose, decide_eq_true_eq]
    exact fun hjob => hother (job?_of_mem_effects effect heffect job hjob)

/-- An answer is owed no longer. -/
theorem owed_step_deliver (a : Application) (now : Timestamp) (id : Nat) (reply : Reply)
    (job : Nat) :
    (a.step (.deliver now id reply)).owed job = (a.owed job).filter (·.id ≠ id) := by
  refine step_of_enactAll (P := fun b => b.owed job = _) (fun _ => Iff.rfl) ?_
  simp only [effects]
  cases hfind : a.pending.find? (·.id = id) with
  | none =>
      refine (List.filter_eq_self.mpr fun p hp => ?_).symm
      simpa using List.find?_eq_none.mp hfind p (List.mem_of_mem_filter hp)
  | some p =>
      have hquiet : ∀ effect ∈ answerEffects now reply p.purpose,
          (∀ id, effect ≠ .close id) ∧ ∀ b, effect.sent? b = none := by
        refine forall_mem_answerEffects (fun _ => ⟨?_, fun _ => rfl⟩) fun _ _ => ⟨?_, fun _ => rfl⟩
        all_goals
          rintro id hclose
          cases hclose
      have hanswer : ((a.enact (.close id)).enactAll (answerEffects now reply p.purpose)).owed job =
          (a.enact (.close id)).owed job :=
        enactAll_induction (P := fun b => b.owed job = (a.enact (.close id)).owed job) _
          (fun effect heffect b hb => by
            obtain ⟨hclose, hsent⟩ := hquiet effect heffect
            rw [owed_enact hclose, hsent, hb]
            exact List.append_nil _) rfl
      rw [enactAll_cons, hanswer, owed, owed]
      exact List.filter_comm _ _ a.pending

/-! ### The keeping of jobs -/

/-- The jobs are the same. -/
structure SameJobs (a b : Application) : Prop where
  jobs_eq : b.jobs = a.jobs
  finished_eq : b.finished = a.finished
  next_eq : b.nextJob = a.nextJob

namespace SameJobs

theorem rfl {a : Application} : SameJobs a a := ⟨Eq.refl _, Eq.refl _, Eq.refl _⟩

theorem trans {a b c : Application} (hab : SameJobs a b) (hbc : SameJobs b c) : SameJobs a c :=
  ⟨hbc.1.trans hab.1, hbc.2.trans hab.2, hbc.3.trans hab.3⟩

theorem waiting_eq {a b : Application} (h : SameJobs a b) (job : Nat) :
    b.waiting job = a.waiting job := by
  rw [waiting, h.jobs_eq, waiting]

theorem outcomes_eq {a b : Application} (h : SameJobs a b) (job : Nat) :
    b.outcomes job = a.outcomes job := by
  rw [outcomes, h.finished_eq, outcomes]

end SameJobs

theorem sameJobs_enact (a : Application) (effect : Effect) : SameJobs a (a.enact effect) := by
  cases effect with
  | enter fragment =>
      simp only [enact, enter, publish]
      exact ⟨rfl, rfl, rfl⟩
  | render now seq response =>
      simp only [enact, apply]
      cases a.dashboard.accept? now seq response <;> exact ⟨rfl, rfl, rfl⟩
  | _ => exact ⟨rfl, rfl, rfl⟩

theorem sameJobs_enactAll (a : Application) (effects : List Effect) :
    SameJobs a (a.enactAll effects) :=
  enactAll_induction (P := SameJobs a) effects
    (fun effect _ b hb => hb.trans (sameJobs_enact b effect)) .rfl

/-- At most one job has been opened, the next one, which waits or is finished at once. Without a job
no call is made for one. -/
inductive Opens (effects : List Effect) (a b : Application) : Prop where
  | none (hsame : SameJobs a b) (heffects : ∀ effect ∈ effects, effect.job? = none)
  | waits (goal : Goal) (owed : Nat) (hjobs : b.jobs = a.jobs ++ [⟨a.nextJob, goal, owed, 0⟩])
      (hfinished : b.finished = a.finished) (hnext : b.nextJob = a.nextJob + 1)
  | finishes (outcome : Outcome) (hjobs : b.jobs = a.jobs)
      (hfinished : b.finished = a.finished.push (a.nextJob, outcome))
      (hnext : b.nextJob = a.nextJob + 1)

namespace Opens

variable {effects : List Effect} {a b : Application}

theorem of_sameJobs {c d : Application} (h : Opens effects b c) (hab : SameJobs a b)
    (hcd : SameJobs c d) : Opens effects a d := by
  obtain ⟨hjobs, hfinished, hnext⟩ := hab
  cases h with
  | none hsame heffects =>
      exact .none ((SameJobs.mk hjobs hfinished hnext).trans (hsame.trans hcd)) heffects
  | waits goal owed hj hf hn =>
      exact .waits goal owed (by rw [hcd.jobs_eq, hj, hjobs, hnext])
        (by rw [hcd.finished_eq, hf, hfinished]) (by rw [hcd.next_eq, hn, hnext])
  | finishes outcome hj hf hn =>
      exact .finishes outcome (by rw [hcd.jobs_eq, hj, hjobs])
        (by rw [hcd.finished_eq, hf, hfinished, hnext]) (by rw [hcd.next_eq, hn, hnext])

theorem next_le (h : Opens effects a b) : a.nextJob ≤ b.nextJob := by
  cases h with
  | none hsame => exact Nat.le_of_eq hsame.next_eq.symm
  | waits goal owed hjobs hfinished hnext => omega
  | finishes outcome hjobs hfinished hnext => omega

/-- Other jobs are left as they are. -/
theorem other (h : Opens effects a b) {job : Nat} (hjob : job ≠ a.nextJob) :
    b.waiting job = a.waiting job ∧ b.outcomes job = a.outcomes job := by
  cases h with
  | none hsame => exact ⟨hsame.waiting_eq job, hsame.outcomes_eq job⟩
  | waits goal owed hjobs hfinished hnext =>
      rw [waiting, waiting, outcomes, outcomes, hjobs, hfinished]
      simp [hjob.symm]
  | finishes outcome hjobs hfinished hnext =>
      rw [waiting, waiting, outcomes, outcomes, hjobs, hfinished]
      simp [hjob.symm]

end Opens

section

variable (effects : List Effect)

theorem opens_startJob (a : Application) (goal : Goal) (owed : Nat) :
    Opens effects a (a.startJob goal owed) := by
  unfold startJob
  split
  · exact .finishes _ rfl rfl rfl
  · exact .waits goal owed rfl rfl rfl

theorem opens_respond (a : Application) (headOnly : Bool) (response : Http.Response) :
    Opens effects a (a.respond headOnly response) :=
  .finishes _ rfl rfl rfl

theorem opens_navigate (a : Application) (fragment : String) (goal : Transition → Goal) :
    Opens effects a (a.navigate fragment goal) := by
  rw [navigate_eq]
  exact (opens_startJob effects _ _ _).of_sameJobs (sameJobs_enact a (.enter fragment))
    (sameJobs_enactAll _ _)

theorem opens_dispatch (a : Application) (command : Command) (goal : Goal) :
    Opens effects a (a.dispatch command goal) := by
  rw [dispatch_eq]
  exact (opens_startJob effects _ _ _).of_sameJobs .rfl (sameJobs_enactAll _ _)

theorem opens_perform (a : Application) (headOnly : Bool) (handler : Http.Handler) :
    Opens effects a (a.perform headOnly handler) := by
  cases handler with
  | health => exact opens_respond effects a _ _
  | snapshot => exact opens_respond effects a _ _
  | updates =>
      cases headOnly with
      | true => exact opens_respond effects a true .eventStream
      | false => exact opens_startJob effects a .stream 1
  | index =>
      have hdrained : SameJobs a a.servePage.2 := sameJobs_enact a .takeAlerts
      exact (opens_respond effects a.servePage.2 headOnly a.servePage.1).of_sameJobs hdrained .rfl
  | navigate fragment => exact opens_navigate effects a fragment fun _ => .redirect
  | submit input =>
      cases input with
      | ok command => exact opens_dispatch effects a command .redirect
      | error error =>
          have hrefused : SameJobs a (a.refuse error) := sameJobs_enactAll a (refusalEffects error)
          exact (opens_startJob effects (a.refuse error) .redirect 0).of_sameJobs hrefused .rfl

end

/-- What is no answer opens at most one job. -/
theorem opens_step {a : Application} {event : Event}
    (hevent : ∀ now id reply, event ≠ .deliver now id reply) :
    Opens (a.effects event) a (a.step event) := by
  have htick (b : Application) (h : SameJobs a b) (poller : Poller) (clock : Nat) :
      Opens (tickEffects poller clock) a b.tick := by
    rw [tick_eq]
    exact .none (h.trans (sameJobs_enactAll b _)) (by simp [tickEffects, Effect.job?])
  cases event with
  | request endpoint goal =>
      rw [step, request_eq]
      exact (opens_startJob _ a goal 1).of_sameJobs .rfl (sameJobs_enactAll _ _)
  | navigate fragment goal => exact opens_navigate _ a fragment goal
  | command command goal => exact opens_dispatch _ a command goal
  | refuse error =>
      exact .none (sameJobs_enactAll a (refusalEffects error))
        (by simp [effects, refusalEffects, Effect.job?])
  | serve request =>
      simp only [step, serve]
      generalize a.effects (.serve request) = effects
      cases Http.Handler.ofRequest request with
      | error refusal => exact opens_respond effects a _ _
      | ok handler => exact opens_perform effects a _ handler
  | startPolling =>
      exact htick { a with poller := a.poller.start a.clock } ⟨rfl, rfl, rfl⟩
        (a.poller.start a.clock) a.clock
  | stopPolling => exact .none ⟨rfl, rfl, rfl⟩ (by simp [effects, Effect.job?])
  | stall time =>
      exact htick { a with clock := a.clock + time } ⟨rfl, rfl, rfl⟩ a.poller (a.clock + time)
  | deliver now id reply => exact absurd rfl (hevent now id reply)

/-! ### Answers to a job -/

/-- The failures of a job after an answer. -/
def failuresAfter (j : Job) (answer : Except Failure Bool) : Nat :=
  j.failures + if answer.isOk then 0 else 1

/-- The record of a job that goes on waiting after an answer. -/
def noted (j : Job) (answer : Except Failure Bool) : Job :=
  { j with owed := j.owed - 1, failures := failuresAfter j answer }

theorem settle_of_none {a : Application} {job : Nat} (hfind : a.jobs.find? (·.id = job) = none)
    (answer : Except Failure Bool) : a.settle job answer = a := by
  simp only [settle, hfind]

theorem settle_eq {a : Application} {job : Nat} {j : Job}
    (hfind : a.jobs.find? (·.id = job) = some j) (answer : Except Failure Bool) :
    a.settle job answer =
      if j.owed ≤ 1 then
        { a with jobs := a.jobs.filter (·.id ≠ job) }.finish job
          (j.goal.outcome answer (failuresAfter j answer))
      else { a with jobs := a.jobs.map fun k => if k.id = job then noted j answer else k } := by
  simp only [settle, hfind]
  cases answer <;> rfl

/-- A record that takes the place of those with its number is found in their place. -/
theorem filter_replace (j : Job) (jobs : List Job) (job : Nat) :
    (jobs.map fun k => if k.id = j.id then j else k).filter (·.id = job) =
      if job = j.id then (jobs.filter (·.id = job)).map fun _ => j
      else jobs.filter (·.id = job) := by
  induction jobs with
  | nil => split <;> rfl
  | cons k rest ih =>
      rw [List.map_cons, List.filter_cons, List.filter_cons, ih]
      by_cases hjob : job = j.id <;> by_cases hk : k.id = j.id
      · simp [hjob, hk]
      · simp [hjob, hk]
      · simp [hk, Ne.symm hjob]
      · simp [hjob, hk]

/-- The settling of a job leaves the others as they are. -/
theorem settle_other (a : Application) {job other : Nat} (hother : other ≠ job)
    (answer : Except Failure Bool) :
    (a.settle job answer).waiting other = a.waiting other ∧
      (a.settle job answer).outcomes other = a.outcomes other := by
  cases hfind : a.jobs.find? (·.id = job) with
  | none =>
      rw [settle_of_none hfind]
      exact ⟨rfl, rfl⟩
  | some j =>
      have hid : j.id = job := of_decide_eq_true (List.find?_some hfind :)
      rw [settle_eq hfind]
      split
      · constructor
        · simp only [waiting, finish, List.filter_filter]
          refine List.filter_congr fun k _ => ?_
          by_cases hk : k.id = other <;> simp [hk, hother]
        · rw [outcomes_finish, if_neg hother.symm, List.append_nil]
          rfl
      · subst hid
        exact ⟨(filter_replace (noted j answer) a.jobs other).trans (if_neg hother), rfl⟩

theorem nextJob_settle (a : Application) (job : Nat) (answer : Except Failure Bool) :
    (a.settle job answer).nextJob = a.nextJob := by
  cases hfind : a.jobs.find? (·.id = job) with
  | none => rw [settle_of_none hfind]
  | some j =>
      rw [settle_eq hfind]
      split <;> rfl

theorem find?_of_waiting {a : Application} {job : Nat} {j : Job} (h : a.waiting job = [j]) :
    a.jobs.find? (·.id = job) = some j := by
  rw [← List.head?_filter]
  exact congrArg List.head? h

/-- The last answer to a job finishes it. -/
theorem settle_last {a : Application} {job : Nat} {j : Job} (hwaiting : a.waiting job = [j])
    (howed : j.owed ≤ 1) (answer : Except Failure Bool) :
    (a.settle job answer).waiting job = [] ∧
      (a.settle job answer).outcomes job =
        a.outcomes job ++ [j.goal.outcome answer (failuresAfter j answer)] := by
  rw [settle_eq (find?_of_waiting hwaiting), if_pos howed]
  constructor
  · simp [waiting, finish]
  · rw [outcomes_finish, if_pos rfl]
    rfl

/-- After any other answer it goes on waiting. -/
theorem settle_early {a : Application} {job : Nat} {j : Job} (hwaiting : a.waiting job = [j])
    (howed : ¬ j.owed ≤ 1) (answer : Except Failure Bool) :
    (a.settle job answer).waiting job = [noted j answer] ∧
      (a.settle job answer).outcomes job = a.outcomes job := by
  have hfind := find?_of_waiting hwaiting
  obtain rfl : j.id = job := of_decide_eq_true (List.find?_some hfind :)
  rw [settle_eq hfind, if_neg howed]
  refine ⟨(filter_replace (noted j answer) a.jobs j.id).trans ?_, rfl⟩
  exact (if_pos rfl).trans (congrArg (List.map fun _ => noted j answer) hwaiting)

/-- What an event does beside the keeping of jobs comes first: an answer to a job is a settling of
the job afterwards. -/
theorem step_deliver_eq_settle {a : Application} {id : Nat} {p : PendingCall} {job : Nat}
    (hfind : a.pending.find? (·.id = id) = some p) (hjob : p.purpose.job? = some job)
    (now : Timestamp) (reply : Reply) :
    ∃ answer : Except Failure Bool,
      a.step (.deliver now id reply) =
        (a.enactAll (a.effects (.deliver now id reply))).settle job answer ∧
      answer.isOk = !Resolution.failed ⟨p, reply⟩ := by
  obtain ⟨id', call, purpose⟩ := p
  simp only [step, deliver, effects, hfind, enactAll_cons]
  cases purpose with
  | poll endpoint seq => cases hjob
  | abandoned => cases hjob
  | status endpoint seq job' =>
      obtain rfl := Option.some.inj hjob
      refine ⟨((a.enact (.close id)).receive now endpoint seq reply).1, ?_, ?_⟩
      · have hreceive := (a.enact (.close id)).receive_eq now endpoint seq reply
        have hpurpose : answerEffects now reply (.status endpoint seq job') =
            answerEffects now reply (.poll endpoint seq) := by
          cases reply <;> rfl
        rw [hpurpose, ← hreceive]
        rfl
      · cases reply with
        | error failure => rfl
        | ok body =>
            simp only [receive, Resolution.failed, Purpose.request?]
            cases StatusResponse.decode endpoint body <;> rfl
  | write job' =>
      obtain rfl := Option.some.inj hjob
      refine ⟨((a.enact (.close id)).acknowledge reply).1, ?_, ?_⟩
      · rw [← acknowledge_eq]
        rfl
      · cases reply <;> rfl

/-- An answer to a call that was made for no job changes no job. -/
theorem sameJobs_step_deliver {a : Application} {id : Nat}
    (h : ∀ p, a.pending.find? (·.id = id) = some p → p.purpose.job? = none) (now : Timestamp)
    (reply : Reply) : SameJobs a (a.step (.deliver now id reply)) := by
  simp only [step, deliver]
  cases hfind : a.pending.find? (·.id = id) with
  | none => exact .rfl
  | some p =>
      obtain ⟨id', call, purpose⟩ := p
      have hclosed := sameJobs_enact a (.close id)
      cases purpose with
      | poll endpoint seq =>
          simp only [answer, receive_eq]
          exact hclosed.trans (sameJobs_enactAll _ _)
      | abandoned => exact hclosed
      | _ => cases h _ hfind

/-- What an event does to the jobs: it opens one at most, or leaves them alone, or settles one. -/
theorem step_jobs (a : Application) (event : Event) :
    Opens (a.effects event) a (a.step event) ∨ SameJobs a (a.step event) ∨
      ∃ b job answer, SameJobs a b ∧ a.step event = b.settle job answer := by
  by_cases hevent : ∃ now id reply, event = .deliver now id reply
  · obtain ⟨now, id, reply, rfl⟩ := hevent
    by_cases hmine : ∃ p job, a.pending.find? (·.id = id) = some p ∧ p.purpose.job? = some job
    · obtain ⟨p, job, hfind, hjob⟩ := hmine
      obtain ⟨answer, hstep, -⟩ := step_deliver_eq_settle hfind hjob now reply
      exact .inr (.inr ⟨_, job, answer, sameJobs_enactAll a _, hstep⟩)
    · refine .inr (.inl (sameJobs_step_deliver (fun p hfind => ?_) now reply))
      exact Option.eq_none_iff_forall_not_mem.mpr fun job hjob => hmine ⟨p, job, hfind, hjob⟩
  · exact .inl (opens_step fun now id reply heq => hevent ⟨now, id, reply, heq⟩)

end Application

end DetectorDashboard
