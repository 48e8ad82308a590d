import Mathlib.Data.List.Nodup
import Mathlib.Data.List.Perm.Subperm
import DetectorDashboard.Proofs.Effect
import DetectorDashboard.Proofs.GateMaxima

/-! The numbers of calls and of status requests. A call that is pending, or that has been resolved,
keeps the number under which it stands in the log, so that no call is resolved twice. A status
request has a second number, which its endpoint's gate counts; for the requests to one endpoint both
numbers give the same order. -/

namespace DetectorDashboard

/-- A pending call with the answer that it gets. -/
structure Resolution extends PendingCall where
  reply : Reply

namespace Application

/-- The call that an event resolves, if there is one. -/
def resolutions (a : Application) : Event → List Resolution
  | .deliver _ id reply => (a.pending.find? (·.id = id)).toList.map fun p => ⟨p, reply⟩
  | _ => []

/-- The calls that are pending and those that have been resolved. -/
def known (a : Application) (resolved : List Resolution) : List PendingCall :=
  a.pending ++ resolved.map (·.toPendingCall)

end Application

structure Numbered (calls : Array Call) (gates : Endpoint → SequenceGate)
    (known : List PendingCall) : Prop where
  nodup : (known.map (·.id)).Nodup
  call_eq : ∀ p ∈ known, calls[p.id]? = some p.call
  seq_lt : ∀ p ∈ known, ∀ e seq, p.purpose.request? = some (e, seq) → seq < (gates e).next
  lt_iff_lt : ∀ p ∈ known, ∀ q ∈ known, ∀ e m n, p.purpose.request? = some (e, m) →
    q.purpose.request? = some (e, n) → (p.id < q.id ↔ m < n)

namespace Numbered

variable {calls : Array Call} {gates gates' : Endpoint → SequenceGate}
  {known known' : List PendingCall}

theorem empty : Numbered #[] (fun _ => {}) [] :=
  ⟨List.nodup_nil, by simp, by simp, by simp⟩

theorem id_lt (h : Numbered calls gates known) {p : PendingCall} (hp : p ∈ known) :
    p.id < calls.size :=
  (Array.getElem?_eq_some_iff.mp (h.call_eq p hp)).1

/-- The two numbers determine one another. -/
theorem id_eq_of_request?_eq (h : Numbered calls gates known) {p q : PendingCall} (hp : p ∈ known)
    (hq : q ∈ known) {e : Endpoint} {seq : Nat} (hpseq : p.purpose.request? = some (e, seq))
    (hqseq : q.purpose.request? = some (e, seq)) : p.id = q.id := by
  have hlt := h.lt_iff_lt p hp q hq e seq seq hpseq hqseq
  have hgt := h.lt_iff_lt q hq p hp e seq seq hqseq hpseq
  omega

theorem subperm (h : Numbered calls gates known) (hsub : known'.Subperm known) :
    Numbered calls gates known' where
  nodup := by
    obtain ⟨l, hperm, hsublist⟩ := hsub
    exact (hperm.map _).nodup_iff.mp (h.nodup.sublist (hsublist.map _))
  call_eq p hp := h.call_eq p (hsub.subset hp)
  seq_lt p hp := h.seq_lt p (hsub.subset hp)
  lt_iff_lt p hp q hq := h.lt_iff_lt p (hsub.subset hp) q (hsub.subset hq)

theorem gates_mono (h : Numbered calls gates known)
    (hgates : ∀ e, (gates e).next ≤ (gates' e).next) : Numbered calls gates' known where
  nodup := h.nodup
  call_eq := h.call_eq
  seq_lt p hp e seq hseq := Nat.lt_of_lt_of_le (h.seq_lt p hp e seq hseq) (hgates e)
  lt_iff_lt := h.lt_iff_lt

/-- The calls stay, but some may no longer be waited for. -/
theorem abandon (h : Numbered calls gates known)
    (hids : known'.map (·.id) = known.map (·.id))
    (hmem : ∀ p ∈ known', ∃ q ∈ known, q.id = p.id ∧ q.call = p.call ∧
      ∀ r, p.purpose.request? = some r → q.purpose.request? = some r) :
    Numbered calls gates known' where
  nodup := hids ▸ h.nodup
  call_eq p hp := by
    obtain ⟨q, hq, hid, hcall, -⟩ := hmem p hp
    rw [← hid, ← hcall]
    exact h.call_eq q hq
  seq_lt p hp e seq hseq := by
    obtain ⟨q, hq, -, -, hpurpose⟩ := hmem p hp
    exact h.seq_lt q hq e seq (hpurpose _ hseq)
  lt_iff_lt p hp p' hp' e m n hm hn := by
    obtain ⟨q, hq, hid, -, hpurpose⟩ := hmem p hp
    obtain ⟨q', hq', hid', -, hpurpose'⟩ := hmem p' hp'
    rw [← hid, ← hid']
    exact h.lt_iff_lt q hq q' hq' e m n (hpurpose _ hm) (hpurpose' _ hn)

/-- A new call, which is no status request or has a number that its gate has never given. -/
theorem cons (h : Numbered calls gates known) (call : Call) (purpose : Purpose)
    (hmono : ∀ e, (gates e).next ≤ (gates' e).next)
    (hnew : ∀ e seq, purpose.request? = some (e, seq) →
      (gates e).next ≤ seq ∧ seq < (gates' e).next) :
    Numbered (calls.push call) gates' (⟨calls.size, call, purpose⟩ :: known) where
  nodup := by
    rw [List.map_cons, List.nodup_cons]
    refine ⟨fun hmem => ?_, h.nodup⟩
    obtain ⟨p, hp, hid⟩ := List.mem_map.mp hmem
    exact absurd (h.id_lt hp) (hid ▸ Nat.lt_irrefl _)
  call_eq := by
    rw [List.forall_mem_cons]
    refine ⟨Array.getElem?_push_size, fun p hp => ?_⟩
    rw [Array.getElem?_push_lt (h.id_lt hp)]
    exact (Array.getElem?_eq_getElem (h.id_lt hp)).symm.trans (h.call_eq p hp)
  seq_lt := by
    rw [List.forall_mem_cons]
    exact ⟨fun e seq hseq => (hnew e seq hseq).2, (h.gates_mono hmono).seq_lt⟩
  lt_iff_lt := by
    -- a new number of either kind is above all old ones
    have hold (p : PendingCall) (hp : p ∈ known) (e : Endpoint) (m n : Nat)
        (hm : p.purpose.request? = some (e, m)) (hn : purpose.request? = some (e, n)) :
        p.id < calls.size ∧ m < n :=
      ⟨h.id_lt hp, Nat.lt_of_lt_of_le (h.seq_lt p hp e m hm) (hnew e n hn).1⟩
    intro p hp q hq e m n hm hn
    rcases List.mem_cons.mp hp with rfl | hp <;> rcases List.mem_cons.mp hq with rfl | hq
    · obtain rfl : m = n := (Prod.mk.inj (Option.some.inj (hm.symm.trans hn))).2
      simp
    · obtain ⟨hid, hseq⟩ := hold q hq e n m hn hm
      dsimp only
      omega
    · obtain ⟨hid, hseq⟩ := hold p hp e m n hm hn
      dsimp only
      omega
    · exact h.lt_iff_lt p hp q hq e m n hm hn

end Numbered

namespace Dashboard

theorem next_issue (d : Dashboard) (endpoint e : Endpoint) :
    ((d.issue endpoint).2.gates e).next =
      if e = endpoint then (d.gates endpoint).next + 1 else (d.gates e).next := by
  simp only [issue, setGate, SequenceGate.issue]
  split <;> rfl

theorem next_accept? {d d' : Dashboard} {now : Timestamp} {seq : Nat} {response : StatusResponse}
    (h : d.accept? now seq response = some d') (e : Endpoint) :
    (d'.gates e).next = (d.gates e).next := by
  obtain ⟨gate, hgate, rfl⟩ := Option.map_eq_some_iff.mp h
  have hnext : gate.next = (d.gates response.endpoint).next := by
    obtain ⟨-, rfl⟩ := SequenceGate.accept?_eq_some_iff.mp hgate
    rfl
  simp only [setGate]
  split
  · rename_i he
    rw [hnext, he]
  · rfl

end Dashboard

namespace Application

theorem known_send (a : Application) (call : Call) (purpose : Purpose)
    (resolved : List Resolution) :
    ((a.send call purpose).known resolved).Perm
      (⟨a.calls.size, call, purpose⟩ :: a.known resolved) := by
  simp only [known, send, List.append_assoc]
  exact List.perm_middle

/-- A call stays as it is, unless it is a poll and its timer is aborted. -/
theorem abandonPoll_eq (timers : List PollTimer) (p : PendingCall) :
    abandonPoll timers p = p ∨
      (∃ endpoint seq, p.purpose = .poll endpoint seq) ∧ abandonPoll timers p = p.abandoned := by
  unfold abandonPoll
  split
  · rename_i endpoint seq hpoll
    split
    · exact .inr ⟨⟨endpoint, seq, hpoll⟩, rfl⟩
    · exact .inl rfl
  · exact .inl rfl

theorem request?_abandonPoll (timers : List PollTimer) (p : PendingCall) (r : Endpoint × Nat)
    (h : (abandonPoll timers p).purpose.request? = some r) : p.purpose.request? = some r := by
  rcases abandonPoll_eq timers p with hsame | ⟨-, hgone⟩
  · rwa [hsame] at h
  · rw [hgone] at h
    cases h

@[simp] theorem abandonPoll_id (timers : List PollTimer) (p : PendingCall) :
    (abandonPoll timers p).id = p.id := by
  rcases abandonPoll_eq timers p with hsame | ⟨-, hgone⟩
  · rw [hsame]
  · rw [hgone]
    rfl

theorem abandonPoll_call (timers : List PollTimer) (p : PendingCall) :
    (abandonPoll timers p).call = p.call := by
  rcases abandonPoll_eq timers p with hsame | ⟨-, hgone⟩
  · rw [hsame]
  · rw [hgone]
    rfl

theorem next_le_next_enact (a : Application) (effect : Effect) (e : Endpoint) :
    (a.dashboard.gates e).next ≤ ((a.enact effect).dashboard.gates e).next := by
  cases effect with
  | ask endpoint job =>
      change _ ≤ ((a.dashboard.issue endpoint).2.gates e).next
      rw [Dashboard.next_issue]
      split
      · rename_i he
        rw [he]
        exact Nat.le_succ _
      · exact Nat.le_refl _
  | render now seq response =>
      simp only [enact, apply]
      cases haccept : a.dashboard.accept? now seq response with
      | none => exact Nat.le_refl _
      | some d => exact Nat.le_of_eq (Dashboard.next_accept? haccept e).symm
  | enter fragment =>
      simp only [enact, enter, publish, Dashboard.navigate]
      exact Nat.le_refl _
  | _ => exact Nat.le_refl _

theorem numbered_enact {a : Application} {resolved : List Resolution}
    (h : Numbered a.calls a.dashboard.gates (a.known resolved)) (effect : Effect) :
    Numbered (a.enact effect).calls (a.enact effect).dashboard.gates
      ((a.enact effect).known resolved) := by
  cases effect with
  | ask endpoint job =>
      have hnext := a.dashboard.next_issue endpoint
      refine (h.cons _ (.ask endpoint (a.dashboard.gates endpoint).next job)
        (next_le_next_enact a (.ask endpoint job)) fun e seq hseq => ?_).subperm
        (known_send _ _ _ resolved).subperm
      rw [Purpose.request?_ask] at hseq
      obtain ⟨rfl, rfl⟩ := Prod.mk.inj (Option.some.inj hseq)
      refine ⟨Nat.le_refl _, ?_⟩
      change _ < ((a.dashboard.issue endpoint).2.gates endpoint).next
      rw [hnext, if_pos rfl]
      exact Nat.lt_succ_self _
  | write request job =>
      exact (h.cons _ (.write job) (fun _ => Nat.le_refl _) (fun _ _ hseq => nomatch hseq)).subperm
        (known_send _ _ _ resolved).subperm
  | close id =>
      exact h.subperm (List.filter_sublist.append_right _).subperm
  | render now seq response =>
      simp only [enact, apply]
      cases haccept : a.dashboard.accept? now seq response with
      | none => exact h
      | some d => exact h.gates_mono fun e => Nat.le_of_eq (Dashboard.next_accept? haccept e).symm
  | abandonPolls =>
      refine h.abandon ?_ fun p hp => ?_
      · simp [enact, known]
      · rcases List.mem_append.mp hp with hp | hp
        · obtain ⟨q, hq, rfl⟩ := List.mem_map.mp hp
          exact ⟨q, List.mem_append_left _ hq, (abandonPoll_id _ q).symm,
            (abandonPoll_call _ q).symm, request?_abandonPoll _ q⟩
        · exact ⟨p, List.mem_append_right _ hp, rfl, rfl, fun _ hr => hr⟩
  | enter fragment =>
      simp only [enact, enter, publish, known, Dashboard.navigate]
      exact h
  | alert message => exact h
  | takeAlerts => exact h
  | setTimers poller clock => exact h

theorem numbered_enactAll {a : Application} {resolved : List Resolution}
    (h : Numbered a.calls a.dashboard.gates (a.known resolved)) (effects : List Effect) :
    Numbered (a.enactAll effects).calls (a.enactAll effects).dashboard.gates
      ((a.enactAll effects).known resolved) :=
  enactAll_induction (P := fun a => Numbered a.calls a.dashboard.gates (a.known resolved))
    effects (fun effect _ _ h => numbered_enact h effect) h

/-- A call that is resolved leaves the pending ones. -/
theorem known_close {a : Application} {id : Nat} {p : PendingCall} (reply : Reply)
    (resolved : List Resolution) (hfind : a.pending.find? (·.id = id) = some p) :
    ((a.enact (.close id)).known (resolved ++ [⟨p, reply⟩])).Subperm (a.known resolved) := by
  obtain ⟨hid, before, after, hpending, -⟩ := List.find?_eq_some_iff_append.mp hfind
  have hrest : (a.pending.filter (·.id ≠ id)).Sublist (before ++ after) := by
    rw [hpending, List.filter_append, List.filter_cons_of_neg (by simpa using hid)]
    exact List.filter_sublist.append List.filter_sublist
  refine (hrest.append_right _).subperm.trans (List.Perm.subperm ?_)
  simp only [known, hpending, List.map_append, List.map_cons, List.map_nil]
  calc before ++ after ++ (resolved.map (·.toPendingCall) ++ [p])
      = before ++ (after ++ resolved.map (·.toPendingCall) ++ [p]) := by simp
    List.Perm _ (before ++ p :: (after ++ resolved.map (·.toPendingCall))) :=
        (List.perm_append_singleton p _).append_left before
    _ = before ++ p :: after ++ resolved.map (·.toPendingCall) := by simp

theorem numbered_step {a : Application} {resolved : List Resolution}
    (h : Numbered a.calls a.dashboard.gates (a.known resolved)) (event : Event) :
    Numbered (a.step event).calls (a.step event).dashboard.gates
      ((a.step event).known (resolved ++ a.resolutions event)) := by
  refine step_of_enactAll (P := fun b => Numbered b.calls b.dashboard.gates
    (b.known (resolved ++ a.resolutions event))) (fun _ => Iff.rfl) ?_
  cases event with
  | deliver now id reply =>
      simp only [effects, resolutions]
      cases hfind : a.pending.find? (·.id = id) with
      | none => simpa using h
      | some p =>
          have hclosed := h.subperm (known_close reply resolved hfind)
          rw [enactAll_cons]
          exact numbered_enactAll hclosed _
  | _ =>
      rw [resolutions, List.append_nil]
      · exact numbered_enactAll h _
      · intro now id reply heq
        cases heq

/-- The numbers of the pending calls do not repeat. -/
theorem nodup_pending {a : Application} {resolved : List Resolution}
    (h : Numbered a.calls a.dashboard.gates (a.known resolved)) : (a.pending.map (·.id)).Nodup := by
  have hnodup := h.nodup
  rw [known, List.map_append, List.nodup_append] at hnodup
  exact hnodup.1

theorem find?_eq_of_mem {pending : List PendingCall} (hnodup : (pending.map (·.id)).Nodup)
    {p : PendingCall} (hp : p ∈ pending) : pending.find? (·.id = p.id) = some p := by
  cases hfind : pending.find? (·.id = p.id) with
  | none => simpa using List.find?_eq_none.mp hfind p hp
  | some q =>
      have hid : q.id = p.id := of_decide_eq_true (List.find?_some hfind :)
      exact congrArg some (List.inj_on_of_nodup_map hnodup (List.mem_of_find?_eq_some hfind) hp hid)

/-- In every run calls keep their numbers, and none is resolved twice. -/
theorem numbered_run (settings : Settings) (sizes : Sizes) (events : List Event) :
    let a := (ofSettings settings sizes).run events
    Numbered a.calls a.dashboard.gates
      (a.known (along resolutions (ofSettings settings sizes) events)) := by
  exact along_induction (P := fun a resolved =>
    Numbered a.calls a.dashboard.gates (a.known resolved)) events _ []
    (fun event _ _ _ h => numbered_step h event) .empty

theorem numbered_resolved (settings : Settings) (sizes : Sizes) (events : List Event) :
    let a := (ofSettings settings sizes).run events
    Numbered a.calls a.dashboard.gates
      ((along resolutions (ofSettings settings sizes) events).map (·.toPendingCall)) :=
  (numbered_run settings sizes events).subperm (List.sublist_append_right _ _).subperm

end Application

end DetectorDashboard
