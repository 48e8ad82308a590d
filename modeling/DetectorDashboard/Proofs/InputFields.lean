import DetectorDashboard.Proofs.FormRedirect
import DetectorDashboard.Proofs.InputText

/-! What becomes of the input of a field. It is read as a whole or not at all. If it spells a value of
the field, its command makes all of its writes and raises no alert; if it does not, nothing is sent,
and one alert says what was wrong with the input as it was typed. -/

namespace DetectorDashboard

open Text (AllBlank trim)

namespace Command

variable {α : Type}

/-- A field reads an input. Whatever the input spells gives its command; a blank input and one that
spells nothing are told apart. -/
structure ReadsInput (field : InputField) (refused : InputField → String → ValidationError)
    (spells : String → α → Prop) (command : α → Command) (input : String)
    (result : Except ValidationError Command) : Prop where
  accepted : ∀ c, result = .ok c ↔ ∃ x, spells input x ∧ c = command x
  rejected : ∀ e, result = .error e ↔
    AllBlank input.toList ∧ e = .empty field ∨
      ¬ AllBlank input.toList ∧ (∀ x, ¬ spells input x) ∧ e = refused field input

section

variable {read? : List Char → Option α} {field : InputField}
  {refused : InputField → String → ValidationError} {input : String}

theorem readField_eq_ok_iff (hnil : read? [] = none) {x : α} :
    readField field read? refused input = .ok x ↔ read? (trim input).toList = some x := by
  by_cases hempty : trim input = ""
  · have hread : readField field read? refused input = .error (.empty field) := if_pos hempty
    have hnone : read? (trim input).toList = none := by
      rw [hempty]
      exact hnil
    simp [hread, hnone]
  · cases hvalue : read? (trim input).toList <;> simp [readField, hempty, hvalue]

theorem readField_eq_error_iff {e : ValidationError} :
    readField field read? refused input = .error e ↔
      AllBlank input.toList ∧ e = .empty field ∨
        ¬ AllBlank input.toList ∧ read? (trim input).toList = none ∧ e = refused field input := by
  rw [← Text.trim_eq_empty_iff]
  by_cases hempty : trim input = ""
  · have hread : readField field read? refused input = .error (.empty field) := if_pos hempty
    simp [hread, hempty, eq_comm]
  · cases hvalue : read? (trim input).toList <;> simp [readField, hempty, hvalue, eq_comm]

theorem readsInput_readField (hnil : read? [] = none) {spells : String → α → Prop}
    (hspells : ∀ x, spells input x ↔ read? (trim input).toList = some x) (command : α → Command) :
    ReadsInput field refused spells command input
      ((readField field read? refused input).map command) where
  accepted c := by
    have hread (x : α) : spells input x ↔ readField field read? refused input = .ok x :=
      (hspells x).trans (readField_eq_ok_iff hnil).symm
    simp only [hread]
    cases readField field read? refused input <;> simp [Except.map, eq_comm]
  rejected e := by
    have hnone : (∀ x, ¬ spells input x) ↔ read? (trim input).toList = none := by
      simp only [hspells, Option.eq_none_iff_forall_ne_some]
    rw [hnone, ← readField_eq_error_iff]
    cases readField field read? refused input <;> simp [Except.map]

end

namespace ReadsInput

variable {field : InputField} {refused : InputField → String → ValidationError}
  {spells : String → α → Prop} {command : α → Command} {input : String}
  {result : Except ValidationError Command}

theorem eq_ok (h : ReadsInput field refused spells command input result) {x : α}
    (hx : spells input x) : result = .ok (command x) :=
  (h.accepted _).mpr ⟨x, hx, rfl⟩

theorem eq_refused (h : ReadsInput field refused spells command input result)
    (hblank : ¬ AllBlank input.toList) (hnone : ∀ x, ¬ spells input x) :
    result = .error (refused field input) :=
  (h.rejected _).mpr (.inr ⟨hblank, hnone, rfl⟩)

theorem exists_error (h : ReadsInput field refused spells command input result)
    (hnone : ∀ x, ¬ spells input x) : ∃ e, result = .error e := by
  cases result with
  | error e => exact ⟨e, rfl⟩
  | ok c =>
      obtain ⟨x, hx, -⟩ := (h.accepted c).mp rfl
      exact absurd hx (hnone x)

end ReadsInput

end Command

namespace Application

/-- Calls are made, and nothing is wrong. -/
structure Sends (a : Application) (calls : List Call) (b : Application) : Prop where
  calls : b.calls.toList = a.calls.toList ++ calls
  alertLog : b.alertLog = a.alertLog

/-- Nothing is sent, and one alert is raised: it is the last one in the queue. -/
structure Refuses (a : Application) (error : ValidationError) (b : Application) : Prop where
  calls : b.calls = a.calls
  pending : b.pending = a.pending
  alertLog : b.alertLog = a.alertLog ++ ["FAILED: " ++ error.message]
  alerts : a.alerts.Receives ("FAILED: " ++ error.message) b.alerts

theorem sends_submit (a : Application) (command : Command) :
    Sends a (command.calls a.dashboard.paths) (a.submit (.ok command)) where
  calls := calls_of_dispatches (.command command .redirect)
  alertLog := by
    have hsilent : (a.commandEffects command).filterMap (·.alert?) = [] := by
      rw [commandEffects, List.filterMap_map]
      exact List.filterMap_eq_nil_iff.mpr fun _ _ => rfl
    have hstarted (goal : Goal) (owed : Nat) : (a.startJob goal owed).alertLog = a.alertLog :=
      (congrArg alertLog (withoutJobs_startJob a goal owed) :)
    rw [submit, dispatch_eq, alertLog_enactAll, hsilent, hstarted, List.append_nil]

theorem refuses_submit (a : Application) (error : ValidationError) :
    Refuses a error (a.submit (.error error)) where
  calls := rfl
  pending := rfl
  alertLog := alertLog_refuse a error
  alerts := receives_refuse a error

end Application

end DetectorDashboard
