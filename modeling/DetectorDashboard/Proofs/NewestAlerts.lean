import Mathlib.Data.List.DropRight
import DetectorDashboard.AlertQueue

/-! The queue of alerts as such, under alerts and drains in any order. It holds the newest of what has
been raised since it was last drained, as many as it has room for; so a drain returns these, and what
all drains return is a part of what was raised, in the same order. -/

namespace DetectorDashboard.AlertQueue

inductive Operation where
  | raise (message : String)
  | drain
deriving DecidableEq

def Operation.message? : Operation → Option String
  | .raise message => some message
  | .drain => none

/-- The messages that some operations raise, in their order. -/
def messages (operations : List Operation) : List String :=
  operations.filterMap (·.message?)

/-- The messages that are raised after the last drain. -/
def sinceDrain (operations : List Operation) : List String :=
  messages (operations.rtakeWhile (· ≠ .drain))

def operate (q : AlertQueue) : Operation → AlertQueue
  | .raise message => q.raise message
  | .drain => q.drain.2

def operateAll (q : AlertQueue) (operations : List Operation) : AlertQueue :=
  operations.foldl operate q

/-- What the drains among some operations return, one after the other. -/
def drained (q : AlertQueue) : List Operation → List (List String)
  | [] => []
  | .raise message :: rest => drained (q.raise message) rest
  | .drain :: rest => q.drain.1 :: drained q.drain.2 rest

theorem sinceDrain_raise (operations : List Operation) (message : String) :
    sinceDrain (operations ++ [.raise message]) = sinceDrain operations ++ [message] := by
  rw [sinceDrain, List.rtakeWhile_concat_pos _ _ _ (by simp), messages, List.filterMap_append]
  rfl

theorem sinceDrain_drain (operations : List Operation) :
    sinceDrain (operations ++ [.drain]) = [] := by
  rw [sinceDrain, List.rtakeWhile_concat_neg _ _ _ (by simp)]
  rfl

/-! ### One operation -/

/-- The newest of a list and of one more item can be told from the newest of the list. -/
theorem rtake_concat {α : Type} {n : Nat} (hn : 0 < n) (xs : List α) (x : α) :
    (xs.rtake n ++ [x]).rtake n = (xs ++ [x]).rtake n := by
  obtain ⟨n, rfl⟩ : ∃ m, n = m + 1 := ⟨n - 1, by omega⟩
  rw [List.rtake_concat_succ, List.rtake_concat_succ]
  simp only [List.rtake_eq_reverse_take_reverse, List.reverse_reverse, List.take_take]
  rw [Nat.min_eq_left (Nat.le_succ n)]

/-- An alert makes the oldest one go just if there is no room for both. -/
theorem pending_raise (q : AlertQueue) (message : String) :
    (q.raise message).pending = (q.pending ++ [message]).rtake q.capacity := by
  have hpositive := q.capacity_pos
  have hroom := q.length_le
  by_cases hfull : q.pending.length = q.capacity
  · have hraise : (q.raise message).pending = q.pending.drop 1 ++ [message] :=
      congrArg (· ++ [message]) (if_pos hfull)
    have hone : (q.pending ++ [message]).length - q.capacity = 1 := by
      rw [List.length_append, List.length_singleton]
      omega
    rw [hraise, List.rtake, hone, List.drop_append_of_le_length (by omega)]
  · have hraise : (q.raise message).pending = q.pending ++ [message] :=
      congrArg (· ++ [message]) (if_neg hfull)
    have hnone : (q.pending ++ [message]).length - q.capacity = 0 := by
      rw [List.length_append, List.length_singleton]
      omega
    rw [hraise, List.rtake, hnone, List.drop_zero]

theorem pending_raise_suffix (q : AlertQueue) (message : String) :
    (q.raise message).pending <:+ q.pending ++ [message] := by
  rw [pending_raise]
  exact List.drop_suffix _ _

/-- A message has come to a queue: it is the last one pending, and of the others the oldest made way
only if there was no room for all. -/
structure Receives (q : AlertQueue) (message : String) (q' : AlertQueue) : Prop where
  capacity_eq : q'.capacity = q.capacity
  pending_eq : q'.pending = (q.pending ++ [message]).rtake q.capacity
  getLast?_eq : q'.pending.getLast? = some message

theorem receives_raise (q : AlertQueue) (message : String) :
    q.Receives message (q.raise message) where
  capacity_eq := rfl
  pending_eq := q.pending_raise message
  getLast?_eq := List.getLast?_concat

theorem capacity_operate (q : AlertQueue) (operation : Operation) :
    (q.operate operation).capacity = q.capacity := by
  cases operation <;> rfl

/-- An operation keeps the newest of what has been raised since the last drain. -/
theorem pending_operate {q : AlertQueue} {operations : List Operation}
    (h : q.pending = (sinceDrain operations).rtake q.capacity) (operation : Operation) :
    (q.operate operation).pending =
      (sinceDrain (operations ++ [operation])).rtake q.capacity := by
  cases operation with
  | raise message =>
      have hraise : (q.operate (.raise message)).pending =
          (q.pending ++ [message]).rtake q.capacity := q.pending_raise message
      rw [hraise, h, rtake_concat q.capacity_pos, sinceDrain_raise]
  | drain =>
      rw [sinceDrain_drain, List.rtake_nil]
      rfl

/-! ### All operations -/

theorem capacity_operateAll (q : AlertQueue) (operations : List Operation) :
    (q.operateAll operations).capacity = q.capacity := by
  induction operations generalizing q with
  | nil => rfl
  | cons operation rest ih => exact (ih _).trans (q.capacity_operate operation)

theorem operateAll_append (q : AlertQueue) (before after : List Operation) :
    q.operateAll (before ++ after) = (q.operateAll before).operateAll after :=
  List.foldl_append

theorem operateAll_concat (q : AlertQueue) (operations : List Operation) (operation : Operation) :
    q.operateAll (operations ++ [operation]) = (q.operateAll operations).operate operation := by
  rw [operateAll_append]
  rfl

theorem pending_operateAll {q : AlertQueue} (h : q.pending = []) (operations : List Operation) :
    (q.operateAll operations).pending = (sinceDrain operations).rtake q.capacity := by
  induction operations using List.reverseRecOn with
  | nil =>
      have hnone : sinceDrain [] = [] := rfl
      rw [hnone, List.rtake_nil]
      exact h
  | append_singleton operations operation ih =>
      rw [← capacity_operateAll q operations] at ih ⊢
      rw [operateAll_concat]
      exact pending_operate ih operation

theorem drained_append (q : AlertQueue) (before after : List Operation) :
    q.drained (before ++ after) = q.drained before ++ (q.operateAll before).drained after := by
  induction before generalizing q with
  | nil => rfl
  | cons operation rest ih =>
      cases operation with
      | raise message => exact ih (q.raise message)
      | drain => exact congrArg (q.drain.1 :: ·) (ih q.drain.2)

/-- What the drains return and what is still pending was pending before or has been raised, and
stands in the order in which it was. -/
theorem drained_sublist (q : AlertQueue) (operations : List Operation) :
    List.Sublist ((q.drained operations).flatten ++ (q.operateAll operations).pending)
      (q.pending ++ messages operations) := by
  induction operations generalizing q with
  | nil => exact List.sublist_append_left _ _
  | cons operation rest ih =>
      cases operation with
      | raise message =>
          have hrest := ih (q.raise message)
          have hfirst := (q.pending_raise_suffix message).sublist.append_right (messages rest)
          rw [List.append_assoc] at hfirst
          exact hrest.trans hfirst
      | drain =>
          have hrest := ih q.drain.2
          have hall := hrest.append_left q.pending
          rw [← List.append_assoc] at hall
          exact hall

/-- The queue never holds more than it has room for. What it holds, and so what the next drain
returns and takes away, are the newest messages raised since the last drain, the oldest of them
first; and no drain returns what another one has returned. -/
theorem newest_alerts_kept (n : Nat) (operations : List Operation) :
    let q := (ofCapacity n).operateAll operations
    let room := max n 1
    let newest := (sinceDrain operations).rtake (min (sinceDrain operations).length room)
    q.pending.length ≤ room ∧
      q.pending = newest ∧
      (ofCapacity n).drained (operations ++ [.drain]) =
        (ofCapacity n).drained operations ++ [newest] ∧
      (q.operate .drain).pending = [] ∧
      List.Sublist (((ofCapacity n).drained operations).flatten ++ q.pending)
        (messages operations) := by
  intro q room newest
  have hcapacity : q.capacity = room := capacity_operateAll (ofCapacity n) operations
  have hpending : q.pending = newest := by
    have hkept : q.pending = (sinceDrain operations).rtake room :=
      pending_operateAll rfl operations
    have hfewer : (sinceDrain operations).length - min (sinceDrain operations).length room =
        (sinceDrain operations).length - room := by omega
    rw [hkept]
    show (sinceDrain operations).drop _ = (sinceDrain operations).drop _
    rw [hfewer]
  refine ⟨hcapacity ▸ q.length_le, hpending, ?_, rfl, (ofCapacity n).drained_sublist operations⟩
  rw [drained_append, ← hpending]
  rfl

end DetectorDashboard.AlertQueue
