import DetectorDashboard.Proofs.AlertDelivery
import DetectorDashboard.Proofs.LatestAnswer

/-! The log of updates as a history. Five operations touch what is announced: a request is numbered,
an answer is shown or found stale, a panel is entered, an alert is raised, and the alerts are taken
for a page. The log has one entry for each of them that had something to announce; the gates and the
view are those of its last entries, and the queue holds the last of its alerts. -/

namespace DetectorDashboard

inductive Operation where
  /-- A request to an endpoint gets its number. -/
  | issue (endpoint : Endpoint)
  | apply (now : Timestamp) (seq : Nat) (response : StatusResponse)
  | navigate (fragment : String)
  | alert (message : String)
  /-- The pending alerts are taken for a page. -/
  | drain

namespace Operation

def message? : Operation → Option String
  | .alert message => some message
  | _ => none

/-- What the operation does to the queue, if it does anything to it. -/
def onAlerts? : Operation → Option AlertQueue.Operation
  | .alert message => some (.raise message)
  | .drain => some .drain
  | _ => none

end Operation

namespace Update

/-- The number of the request whose answer was rendered, if that was one to the endpoint. -/
def seq? (e : Endpoint) : Update → Option Nat
  | .rendered endpoint seq => if endpoint = e then some seq else none
  | _ => none

def alert? : Update → Option String
  | .alert message => some message
  | _ => none

def navigation? : Update → Option (Panel × String)
  | .navigated panel title => some (panel, title)
  | _ => none

end Update

/-- The numbers of the answers of an endpoint that were rendered. -/
def renderedSeqs (e : Endpoint) (log : List Update) : List Nat :=
  log.filterMap (·.seq? e)

/-- The panels that were entered, with the titles shown for them. -/
def navigations (log : List Update) : List (Panel × String) :=
  log.filterMap (·.navigation?)

theorem filterMap_concat {α β : Type} (f : α → Option β) (xs : List α) (x : α) :
    (xs ++ [x]).filterMap f = xs.filterMap f ++ (f x).toList := by
  simp only [List.filterMap_eq_flatMap_toList, List.flatMap_append, List.flatMap_singleton]

@[simp] theorem renderedSeqs_concat (e : Endpoint) (log : List Update) (u : Update) :
    renderedSeqs e (log ++ [u]) = renderedSeqs e log ++ (u.seq? e).toList :=
  filterMap_concat _ log u

@[simp] theorem navigations_concat (log : List Update) (u : Update) :
    navigations (log ++ [u]) = navigations log ++ u.navigation?.toList :=
  filterMap_concat _ log u

namespace Application

def log (a : Application) : List Update :=
  a.bus.published.toList

def operate (a : Application) : Operation → Application
  | .issue endpoint => { a with dashboard := (a.dashboard.issue endpoint).2 }
  | .apply now seq response => (a.apply now seq response).2
  | .navigate fragment => (a.enter fragment).2
  | .alert message => a.alert message
  | .drain => a.drainAlerts.2

def operateAll (a : Application) (operations : List Operation) : Application :=
  operations.foldl operate a

theorem operateAll_induction {P : Application → Prop} (operations : List Operation)
    {a : Application} (hstep : ∀ operation a, P a → P (a.operate operation)) (ha : P a) :
    P (a.operateAll operations) :=
  List.foldlRecOn operations operate ha fun a ha operation _ => hstep operation a ha

/-- The update that an operation has to announce: a stale answer announces none. -/
def update? (a : Application) : Operation → Option Update
  | .apply now seq response =>
      if (a.apply now seq response).1 then some (.rendered response.endpoint seq) else none
  | .navigate fragment =>
      let entered := a.dashboard.view.navigate fragment
      some (.navigated entered.panel entered.title)
  | .alert message => some (.alert message)
  | .issue _ | .drain => none

/-- The updates that a run of operations has to announce. -/
def updates (a : Application) : List Operation → List Update
  | [] => []
  | operation :: rest => (a.update? operation).toList ++ updates (a.operate operation) rest

/-- The messages that come to the queue in a run of operations: after each alert, the last one that
is in it. -/
def arrivals (a : Application) : List Operation → List String
  | [] => []
  | operation :: rest =>
      let next := a.operate operation
      (if operation.message?.isSome then next.alerts.pending.getLast?.toList else []) ++
        next.arrivals rest

theorem apply_of_stale {a : Application} {now : Timestamp} {seq : Nat} {response : StatusResponse}
    (h : a.dashboard.accept? now seq response = none) :
    a.apply now seq response = (false, a) := by
  rw [apply, h]

theorem apply_of_fresh {a : Application} {now : Timestamp} {seq : Nat} {response : StatusResponse}
    {d : Dashboard} (h : a.dashboard.accept? now seq response = some d) :
    a.apply now seq response =
      (true, { a with dashboard := d }.publish (.rendered response.endpoint seq)) := by
  rw [apply, h]

theorem log_operate (a : Application) (operation : Operation) :
    (a.operate operation).log = a.log ++ (a.update? operation).toList := by
  cases operation with
  | apply now seq response =>
      cases haccept : a.dashboard.accept? now seq response with
      | none =>
          rw [operate, update?, apply_of_stale haccept]
          exact (List.append_nil _).symm
      | some d =>
          rw [operate, update?, apply_of_fresh haccept]
          exact Array.toList_push
  | navigate fragment =>
      simp only [operate, update?, enter]
      exact Array.toList_push
  | alert message => exact Array.toList_push
  | issue endpoint => exact (List.append_nil _).symm
  | drain => exact (List.append_nil _).symm

theorem log_operateAll (a : Application) (operations : List Operation) :
    (a.operateAll operations).log = a.log ++ a.updates operations := by
  induction operations generalizing a with
  | nil => exact (List.append_nil _).symm
  | cons operation rest ih =>
      calc ((a.operate operation).operateAll rest).log
          = (a.operate operation).log ++ (a.operate operation).updates rest := ih _
        _ = a.log ++ (a.update? operation).toList ++ (a.operate operation).updates rest := by
            rw [log_operate]
        _ = a.log ++ a.updates (operation :: rest) := List.append_assoc ..

end Application

/-- The gates and the view are those of the last entries of a log. -/
structure Announced (d : Dashboard) (log : List Update) : Prop where
  increasing : ∀ e, (renderedSeqs e log).Pairwise (· < ·)
  getLast?_eq : ∀ e, (renderedSeqs e log).getLast? = (d.gates e).lastApplied
  shown : ∀ navigation ∈ (navigations log).getLast?, navigation = (d.view.panel, d.view.title)

namespace Announced

variable {d d' : Dashboard} {log : List Update}

theorem ofSettings (settings : Settings) : Announced (.ofSettings settings) [] where
  increasing _ := List.Pairwise.nil
  getLast?_eq _ := rfl
  shown _ h := nomatch h

/-- An answer is newer than the last one that was rendered just if it is newer than all of them. -/
theorem isNewer_iff (h : Announced d log) (e : Endpoint) (seq : Nat) :
    (d.gates e).isNewer seq ↔ ∀ m ∈ renderedSeqs e log, m < seq := by
  rw [SequenceGate.isNewer, ← h.getLast?_eq e]
  cases hlast : (renderedSeqs e log).getLast? with
  | none => simp [List.getLast?_eq_none_iff.mp hlast]
  | some last =>
      obtain ⟨before, hseqs⟩ := List.getLast?_eq_some_iff.mp hlast
      have hbefore : ∀ m ∈ before, m < last := by
        have hpairwise := h.increasing e
        rw [hseqs, List.pairwise_append] at hpairwise
        exact fun m hm => hpairwise.2.2 m hm last (List.mem_singleton_self last)
      simp only [Option.all_some, decide_eq_true_eq, hseqs, List.forall_mem_append,
        List.forall_mem_singleton]
      exact ⟨fun hlt => ⟨fun m hm => (hbefore m hm).trans hlt, hlt⟩, fun hall => hall.2⟩

/-- Nothing is rendered, but another panel may be entered. -/
theorem of_renderedSeqs_eq (h : Announced d log) {log' : List Update}
    (hseqs : ∀ e, renderedSeqs e log' = renderedSeqs e log)
    (hgates : ∀ e, (d'.gates e).lastApplied = (d.gates e).lastApplied)
    (hshown : ∀ navigation ∈ (navigations log').getLast?,
      navigation = (d'.view.panel, d'.view.title)) : Announced d' log' where
  increasing e := hseqs e ▸ h.increasing e
  getLast?_eq e := by rw [hseqs, hgates, h.getLast?_eq]
  shown := hshown

theorem issue (h : Announced d log) (endpoint : Endpoint) : Announced (d.issue endpoint).2 log :=
  h.of_renderedSeqs_eq (fun _ => rfl) (Application.lastApplied_issue d endpoint) h.shown

theorem navigate (h : Announced d log) (fragment : String) :
    let entered := d.view.navigate fragment
    Announced (d.navigate fragment) (log ++ [.navigated entered.panel entered.title]) := by
  refine h.of_renderedSeqs_eq (fun e => ?_) (fun _ => rfl) fun navigation hlast => ?_
  · rw [renderedSeqs_concat]
    exact List.append_nil _
  · rw [navigations_concat] at hlast
    have hentered : navigation = ((d.view.navigate fragment).panel,
        (d.view.navigate fragment).title) := by
      simpa [Update.navigation?, eq_comm] using hlast
    exact hentered

theorem alert (h : Announced d log) (message : String) : Announced d (log ++ [.alert message]) := by
  refine h.of_renderedSeqs_eq (fun e => ?_) (fun _ => rfl) fun navigation hlast => ?_
  · rw [renderedSeqs_concat]
    exact List.append_nil _
  · rw [navigations_concat] at hlast
    exact h.shown navigation (by simpa [Update.navigation?] using hlast)

/-- An answer that is let through is newer than all that were rendered, and becomes the last. -/
theorem accept? (h : Announced d log) {now : Timestamp} {seq : Nat} {response : StatusResponse}
    (haccept : d.accept? now seq response = some d') :
    Announced d' (log ++ [.rendered response.endpoint seq]) := by
  obtain ⟨gate, hgate, rfl⟩ := Option.map_eq_some_iff.mp haccept
  obtain ⟨hnewer, rfl⟩ := SequenceGate.accept?_eq_some_iff.mp hgate
  refine ⟨fun e => ?_, fun e => ?_, fun navigation hlast => ?_⟩
  · rw [renderedSeqs_concat]
    by_cases he : response.endpoint = e
    · subst he
      simp only [Update.seq?, if_true, Option.toList_some]
      rw [List.pairwise_append]
      refine ⟨h.increasing _, List.pairwise_singleton _ _, fun m hm n hn => ?_⟩
      rw [List.mem_singleton.mp hn]
      exact (h.isNewer_iff _ seq).mp hnewer m hm
    · simpa [Update.seq?, he] using h.increasing e
  · rw [renderedSeqs_concat]
    by_cases he : response.endpoint = e
    · subst he
      simp [Update.seq?, Dashboard.setGate]
    · have hne : e ≠ response.endpoint := fun heq => he heq.symm
      simpa [Update.seq?, he, Dashboard.setGate, hne] using h.getLast?_eq e
  · rw [navigations_concat] at hlast
    exact h.shown navigation (by simpa [Update.navigation?] using hlast)

end Announced

namespace Application

theorem announced_operate {a : Application} (h : Announced a.dashboard a.log)
    (operation : Operation) :
    Announced (a.operate operation).dashboard (a.operate operation).log := by
  rw [log_operate]
  cases operation with
  | issue endpoint =>
      rw [update?, Option.toList_none, List.append_nil]
      exact h.issue endpoint
  | apply now seq response =>
      cases haccept : a.dashboard.accept? now seq response with
      | none =>
          rw [operate, update?, apply_of_stale haccept]
          simpa using h
      | some d =>
          rw [operate, update?, apply_of_fresh haccept]
          exact h.accept? haccept
  | navigate fragment =>
      simp only [operate, enter]
      exact h.navigate fragment
  | alert message => exact h.alert message
  | drain =>
      rw [update?, Option.toList_none, List.append_nil]
      exact h

theorem announced_operateAll {a : Application} (h : Announced a.dashboard a.log)
    (operations : List Operation) :
    Announced (a.operateAll operations).dashboard (a.operateAll operations).log :=
  operateAll_induction (P := fun b => Announced b.dashboard b.log) operations
    (fun operation _ h => announced_operate h operation) h

/-! ### Alerts -/

theorem alertLog_eq (a : Application) : a.alertLog = a.log.filterMap (·.alert?) := rfl

theorem alertLog_operate (a : Application) (operation : Operation) :
    (a.operate operation).alertLog = a.alertLog ++ operation.message?.toList := by
  rw [alertLog_eq, log_operate, List.filterMap_append, ← alertLog_eq]
  apply congrArg (a.alertLog ++ ·)
  cases operation with
  | apply now seq response =>
      rw [update?]
      split <;> rfl
  | _ => rfl

theorem alertLog_operateAll (a : Application) (operations : List Operation) :
    (a.operateAll operations).alertLog = a.alertLog ++ operations.filterMap (·.message?) := by
  rw [List.filterMap_eq_flatMap_toList]
  induction operations generalizing a with
  | nil => exact (List.append_nil _).symm
  | cons operation rest ih =>
      rw [operateAll, List.foldl_cons, ← operateAll, ih, alertLog_operate, List.append_assoc,
        List.flatMap_cons]

theorem alerts_operate (a : Application) (operation : Operation) :
    (a.operate operation).alerts = a.alerts.operateAll operation.onAlerts?.toList := by
  cases operation with
  | apply now seq response =>
      cases haccept : a.dashboard.accept? now seq response with
      | none =>
          rw [operate, apply_of_stale haccept]
          rfl
      | some d =>
          rw [operate, apply_of_fresh haccept]
          rfl
  | navigate fragment =>
      simp only [operate, enter, publish]
      rfl
  | _ => rfl

theorem alerts_operateAll (a : Application) (operations : List Operation) :
    (a.operateAll operations).alerts =
      a.alerts.operateAll (operations.filterMap (·.onAlerts?)) := by
  rw [List.filterMap_eq_flatMap_toList]
  induction operations generalizing a with
  | nil => rfl
  | cons operation rest ih =>
      rw [operateAll, List.foldl_cons, ← operateAll, ih, alerts_operate, List.flatMap_cons,
        AlertQueue.operateAll_append]

theorem messages_onAlerts? (operations : List Operation) :
    AlertQueue.messages (operations.filterMap (·.onAlerts?)) =
      operations.filterMap (·.message?) := by
  rw [AlertQueue.messages, List.filterMap_filterMap]
  refine List.filterMap_congr fun operation _ => ?_
  cases operation <;> rfl

/-- Every alert comes to the queue. -/
theorem arrivals_eq (a : Application) (operations : List Operation) :
    a.arrivals operations = operations.filterMap (·.message?) := by
  rw [List.filterMap_eq_flatMap_toList]
  induction operations generalizing a with
  | nil => rfl
  | cons operation rest ih =>
      rw [arrivals, ih, List.flatMap_cons]
      cases operation with
      | alert message =>
          have hlast := (a.alerts.receives_raise message).getLast?_eq
          exact congrArg (·.toList ++ rest.flatMap (·.message?.toList)) hlast
      | _ => rfl

/-- In every run of operations the log holds exactly the updates that the operations had to
announce, one for each and in their order. For each endpoint the numbers of the answers that were
rendered increase, and the last is the one that the gate let through last; the last panel that was
entered is the one on show, under its title. The alerts of the log are, in their order, those that
were raised and so the messages that came to the queue, also those that it has dropped since; it
holds the newest that were raised since it was last drained, as many as it has room for. -/
theorem log_eq_updates (settings : Settings) (sizes : Sizes) (operations : List Operation) :
    let a := (ofSettings settings sizes).operateAll operations
    a.log = (ofSettings settings sizes).updates operations ∧
      (∀ e, (renderedSeqs e a.log).Pairwise (· < ·) ∧
        (renderedSeqs e a.log).getLast? = (a.dashboard.gates e).lastApplied) ∧
      (navigations a.log).getLast? =
        (navigations a.log).getLast?.map (fun _ => (a.dashboard.view.panel, a.dashboard.view.title)) ∧
      a.alertLog = operations.filterMap (·.message?) ∧
      a.alertLog = (ofSettings settings sizes).arrivals operations ∧
      a.alerts.pending =
        (AlertQueue.sinceDrain (operations.filterMap (·.onAlerts?))).rtake (max sizes.alerts 1) ∧
      a.alerts.pending <:+ a.alertLog := by
  intro a
  have hannounced : Announced a.dashboard a.log :=
    announced_operateAll (.ofSettings settings) operations
  have halerts : a.alertLog = operations.filterMap (·.message?) := alertLog_operateAll _ operations
  have hpending : a.alerts.pending =
      (AlertQueue.sinceDrain (operations.filterMap (·.onAlerts?))).rtake (max sizes.alerts 1) := by
    simp only [a, alerts_operateAll]
    exact AlertQueue.pending_operateAll rfl _
  refine ⟨log_operateAll _ operations, fun e => ⟨hannounced.increasing e, hannounced.getLast?_eq e⟩,
    ?_, halerts, halerts.trans (arrivals_eq _ operations).symm, hpending, ?_⟩
  · cases hlast : (navigations a.log).getLast? with
    | none => rfl
    | some navigation => exact congrArg some (hannounced.shown navigation hlast)
  · rw [hpending, halerts, ← messages_onAlerts?]
    exact (List.drop_suffix _ _).trans ((List.rtakeWhile_suffix _ _).filterMap _)

/-- The first of two requests is answered late, three alerts come to a queue that has room for two,
and a panel is entered. -/
theorem log_of_late_answer_and_overflow :
    let operations : List Operation :=
      [ .issue .apiVersion, .issue .apiVersion, .alert "a", .apply ⟨0, 0⟩ 1 (.apiVersion "1.8.0"),
        .alert "b", .apply ⟨0, 0⟩ 0 (.apiVersion "1.6.0"), .navigate "#/fr-view", .alert "c" ]
    let a := (ofSettings {} { alerts := 2 }).operateAll operations
    a.log =
        [ .alert "a", .rendered .apiVersion 1, .alert "b", .navigated .receivers "Eiger (fr-view)",
          .alert "c" ] ∧
      (a.dashboard.gates .apiVersion).lastApplied = some 1 ∧
      (a.dashboard.view.panel, a.dashboard.view.title) = (.receivers, "Eiger (fr-view)") ∧
      a.alertLog = ["a", "b", "c"] ∧ a.alerts.pending = ["b", "c"] := by
  intro operations a
  obtain ⟨hlog, hrendered, hnavigated, halerts, -, hpending, -⟩ :=
    log_eq_updates {} { alerts := 2 } operations
  have hupdates : (ofSettings {} { alerts := 2 }).updates operations =
      [ .alert "a", .rendered .apiVersion 1, .alert "b", .navigated .receivers "Eiger (fr-view)",
        .alert "c" ] := by
    decide +kernel
  rw [hupdates] at hlog
  have hlast := (hrendered .apiVersion).2
  rw [hlog] at hlast hnavigated
  exact ⟨hlog, hlast.symm, (Option.some.inj hnavigated).symm, halerts, hpending⟩

end Application

end DetectorDashboard
