import Mathlib.Data.List.Induction
import Mathlib.Data.List.ReduceOption
import DetectorDashboard.Proofs.EventFormat

/-! Following the updates. A client opens the stream and takes its frames, one at a time or all that
there are, as fast as it likes; meanwhile updates are published. What it is sent is compared with an
inbox: published updates wait in it to be read, the oldest are lost when more wait than the bus
keeps, and the rest is read in order. -/

namespace DetectorDashboard

open Http

namespace Http.EventStream

/-- The next frame, if there is one now: that of the oldest update that has not been read and is
still kept, or a comment. -/
def next? (s : EventStream) (bus : UpdateBus) (now : Nat) : Option (String × EventStream) :=
  match (bus.receive s.subscription).1.updates with
  | u :: rest => some (eventFrame u, ⟨⟨bus.published.size - rest.length⟩, now + silence⟩)
  | [] =>
    if s.commentDue ≤ now then some (commentFrame, { s with commentDue := now + silence })
    else none

theorem read_eq (s : EventStream) (bus : UpdateBus) (now : Nat) : s.read bus now =
    let updates := (bus.receive s.subscription).1.updates
    if updates ≠ [] then (updates.map eventFrame, ⟨bus.subscribe, now + silence⟩)
    else if s.commentDue ≤ now then ([commentFrame], ⟨bus.subscribe, now + silence⟩)
    else ([], { s with subscription := bus.subscribe }) := rfl

theorem updates_receive_next {bus : UpdateBus} {s : Subscription} {u : Update}
    {rest : List Update} (h : (bus.receive s).1.updates = u :: rest) :
    (bus.receive ⟨bus.published.size - rest.length⟩).1.updates = rest := by
  have hdrop : bus.published.toList.drop (max s.position bus.oldest) = u :: rest := h
  have hlength := congrArg List.length hdrop
  rw [List.length_drop, Array.length_toList, List.length_cons] at hlength
  have hstart : max (bus.published.size - rest.length) bus.oldest =
      max s.position bus.oldest + 1 := by omega
  calc (bus.receive ⟨bus.published.size - rest.length⟩).1.updates
      = bus.published.toList.drop (max (bus.published.size - rest.length) bus.oldest) := rfl
    _ = (bus.published.toList.drop (max s.position bus.oldest)).drop 1 := by
        rw [hstart, List.drop_drop]
    _ = rest := by rw [hdrop, List.drop_succ_cons, List.drop_zero]

/-- All frames that there are now: the next one and those after it. -/
theorem read_eq_next? {s : EventStream} {bus : UpdateBus} (hcapacity : 0 < bus.capacity)
    (hposition : s.subscription.position ≤ bus.published.size) (now : Nat) :
    s.read bus now =
      match s.next? bus now with
      | none => ([], s)
      | some (frame, s') => (frame :: (s'.read bus now).1, (s'.read bus now).2) := by
  have hsilence : ¬ now + silence ≤ now := by
    rw [silence]
    omega
  rw [read_eq, next?]
  cases hupdates : (bus.receive s.subscription).1.updates with
  | cons u rest =>
      simp only [read_eq, updates_receive_next hupdates, hsilence, if_false]
      cases rest with
      | nil => rfl
      | cons v later => rfl
  | nil =>
      by_cases hdue : s.commentDue ≤ now
      · simp [read_eq, hupdates, hdue, hsilence]
      · have hdrop : bus.published.toList.drop (max s.subscription.position bus.oldest) = [] :=
          hupdates
        have hend : bus.subscribe = s.subscription := by
          have hle := List.drop_eq_nil_iff.mp hdrop
          rw [Array.length_toList, UpdateBus.oldest] at hle
          have hsize : bus.published.size = s.subscription.position := by omega
          rw [UpdateBus.subscribe, hsize]
        simp [hdue, hend]

end Http.EventStream

/-- A client that follows the updates of a bus, with the frames that it has been sent. -/
structure Follower where
  bus : UpdateBus
  stream : EventStream
  frames : List String := []

/-- What happens while a client follows the updates. -/
inductive Moment where
  | publish (u : Update)
  /-- The client takes the next frame, if there is one. -/
  | poll (now : Nat)
  /-- The client takes all frames that there are. -/
  | read (now : Nat)

def Moment.update? : Moment → Option Update
  | .publish u => some u
  | _ => none

namespace Follower

/-- A client that opens the stream. -/
def ofBus (bus : UpdateBus) (now : Nat) : Follower where
  bus := bus
  stream := .ofBus bus now

def step (f : Follower) : Moment → Follower
  | .publish u => { f with bus := f.bus.publish u }
  | .poll now =>
    match f.stream.next? f.bus now with
    | none => f
    | some (frame, stream) => { f with stream := stream, frames := f.frames ++ [frame] }
  | .read now =>
    let (frames, stream) := f.stream.read f.bus now
    { f with stream := stream, frames := f.frames ++ frames }

def run (f : Follower) (moments : List Moment) : Follower :=
  moments.foldl step f

/-- The updates that have been published and neither read nor found lost. -/
def unread (f : Follower) : List Update :=
  f.bus.published.toList.drop f.stream.subscription.position

end Follower

/-- The updates that wait for a reader, of which so many are kept. -/
structure Inbox where
  capacity : Nat
  unread : List Update := []
  /-- The updates that wait no longer, and whether they were sent to the reader. -/
  taken : List (Update × Bool) := []

namespace Inbox

def ofCapacity (capacity : Nat) : Inbox where
  capacity := capacity

/-- The oldest updates, as far as there are more than are kept. -/
def missed (i : Inbox) : List Update :=
  i.unread.take (i.unread.length - i.capacity)

def kept (i : Inbox) : List Update :=
  i.unread.drop (i.unread.length - i.capacity)

/-- Some of the updates that are kept are read, the oldest first; what is not kept is lost. -/
def read (i : Inbox) (count : Nat) : Inbox :=
  { i with
    unread := i.kept.drop count
    taken := i.taken ++ i.missed.map (·, false) ++ (i.kept.take count).map (·, true) }

def step (i : Inbox) : Moment → Inbox
  | .publish u => { i with unread := i.unread ++ [u] }
  | .poll _ => i.read 1
  | .read _ => i.read i.unread.length

def run (i : Inbox) (moments : List Moment) : Inbox :=
  moments.foldl step i

def sent (i : Inbox) : List Update :=
  (i.taken.filter (·.2)).map (·.1)

theorem sent_read (i : Inbox) (count : Nat) : (i.read count).sent = i.sent ++ i.kept.take count := by
  have hmissed : (i.missed.map (·, false)).filter (·.2) = [] := by
    rw [List.filter_eq_nil_iff]
    intro t ht
    obtain ⟨u, -, rfl⟩ := List.mem_map.mp ht
    exact Bool.false_ne_true
  have hkept : ((i.kept.take count).map (·, true)).filter (·.2) =
      (i.kept.take count).map (·, true) := by
    rw [List.filter_eq_self]
    intro t ht
    obtain ⟨u, -, rfl⟩ := List.mem_map.mp ht
    rfl
  simp only [sent, read, List.filter_append, hmissed, hkept, List.append_nil, List.map_append,
    List.map_map, Function.comp_def, List.map_id']

/-- Every update that was published waits, or has waited. -/
theorem taken_append_unread_step (i : Inbox) (moment : Moment) :
    (i.step moment).taken.map (·.1) ++ (i.step moment).unread =
      i.taken.map (·.1) ++ i.unread ++ moment.update?.toList := by
  have hread (count : Nat) : (i.read count).taken.map (·.1) ++ (i.read count).unread =
      i.taken.map (·.1) ++ i.unread := by
    simp only [read, missed, kept, List.map_append, List.map_map, Function.comp_def, List.map_id',
      List.append_assoc, List.take_append_drop]
  cases moment with
  | publish u => exact (List.append_assoc ..).symm
  | poll now => exact (hread 1).trans (List.append_nil _).symm
  | read now => exact (hread _).trans (List.append_nil _).symm

theorem taken_append_unread_run (i : Inbox) (moments : List Moment) :
    (i.run moments).taken.map (·.1) ++ (i.run moments).unread =
      i.taken.map (·.1) ++ i.unread ++ moments.filterMap (·.update?) := by
  rw [List.filterMap_eq_flatMap_toList]
  induction moments generalizing i with
  | nil => exact (List.append_nil _).symm
  | cons moment rest ih =>
      rw [run, List.foldl_cons, ← run, ih, taken_append_unread_step, List.append_assoc,
        List.flatMap_cons]

theorem sent_sublist_taken (i : Inbox) : i.sent.Sublist (i.taken.map (·.1)) :=
  List.filter_sublist.map _

theorem capacity_step (i : Inbox) (moment : Moment) : (i.step moment).capacity = i.capacity := by
  cases moment <;> rfl

theorem capacity_run (i : Inbox) (moments : List Moment) :
    (i.run moments).capacity = i.capacity := by
  induction moments generalizing i with
  | nil => rfl
  | cons moment rest ih => exact (ih (i.step moment)).trans (i.capacity_step moment)

/-- If no more wait than are kept, those that are read are all sent. -/
theorem sent_eq_taken_step {i : Inbox} (h : i.sent = i.taken.map (·.1))
    (hlength : i.unread.length ≤ i.capacity) (moment : Moment) :
    (i.step moment).sent = (i.step moment).taken.map (·.1) := by
  have hread (count : Nat) : (i.read count).sent = (i.read count).taken.map (·.1) := by
    have hmissed : i.missed = [] := by
      rw [missed, Nat.sub_eq_zero_of_le hlength, List.take_zero]
    rw [sent_read, read, hmissed, h]
    simp [Function.comp_def]
  cases moment with
  | publish u => exact h
  | poll now => exact hread 1
  | read now => exact hread _

/-- Nothing is lost of an inbox in which never more wait than are kept. -/
theorem sent_eq_taken_run {i : Inbox} (hi : i.sent = i.taken.map (·.1)) {moments : List Moment}
    (h : ∀ before, before <+: moments → (i.run before).unread.length ≤ i.capacity) :
    (i.run moments).sent = (i.run moments).taken.map (·.1) := by
  induction moments using List.reverseRecOn with
  | nil => exact hi
  | append_singleton moments moment ih =>
      have hsent := ih fun before hbefore => h before (hbefore.trans (List.prefix_append _ _))
      have hlength : (i.run moments).unread.length ≤ (i.run moments).capacity := by
        rw [capacity_run]
        exact h moments (List.prefix_append _ _)
      rw [run, List.foldl_append]
      exact sent_eq_taken_step hsent hlength moment

end Inbox

/-- What a client has been sent, and what waits for it, is what an inbox says. -/
structure Follows (f : Follower) (i : Inbox) : Prop where
  capacity_eq : f.bus.capacity = i.capacity
  capacity_pos : 0 < i.capacity
  position_le : f.stream.subscription.position ≤ f.bus.published.size
  unread_eq : f.unread = i.unread
  frames_eq : ∃ parts : List (Option Update), f.frames = parts.map frame ∧ parts.reduceOption = i.sent

namespace Follows

variable {f : Follower} {i : Inbox}

theorem length_unread (h : Follows f i) :
    i.unread.length = f.bus.published.size - f.stream.subscription.position := by
  rw [← h.unread_eq, Follower.unread, List.length_drop, Array.length_toList]

/-- The updates that are handed to the client are those that the inbox keeps. -/
theorem updates_receive (h : Follows f i) :
    (f.bus.receive f.stream.subscription).1.updates = i.kept := by
  have hlength := h.length_unread
  have hstart : max f.stream.subscription.position f.bus.oldest =
      f.stream.subscription.position + (i.unread.length - i.capacity) := by
    rw [UpdateBus.oldest, hlength, ← h.capacity_eq]
    omega
  rw [UpdateBus.receive, hstart, ← List.drop_drop, Inbox.kept, ← h.unread_eq]
  rfl

theorem kept_suffix (h : Follows f i) : i.kept <:+ f.bus.published.toList := by
  rw [← h.updates_receive]
  exact List.drop_suffix _ _

/-- The client is handed some of the updates that are kept, the oldest first. -/
theorem read (h : Follows f i) {f' : Follower} (count : Nat) (hbus : f'.bus = f.bus)
    (hposition : f'.stream.subscription.position =
      f.bus.published.size - (i.kept.drop count).length)
    (hframes : ∃ parts : List (Option Update), f'.frames = f.frames ++ parts.map frame ∧
      parts.reduceOption = i.kept.take count) : Follows f' (i.read count) where
  capacity_eq := by rw [hbus]; exact h.capacity_eq
  capacity_pos := h.capacity_pos
  position_le := by
    rw [hposition, hbus]
    exact Nat.sub_le _ _
  unread_eq := by
    have hsuffix : i.kept.drop count <:+ f.bus.published.toList :=
      (List.drop_suffix _ _).trans h.kept_suffix
    rw [Follower.unread, hposition, hbus, ← Array.length_toList]
    exact (List.suffix_iff_eq_drop.mp hsuffix).symm
  frames_eq := by
    obtain ⟨parts, hparts, hsent⟩ := h.frames_eq
    obtain ⟨new, hnew, htaken⟩ := hframes
    refine ⟨parts ++ new, ?_, ?_⟩
    · rw [hnew, hparts, List.map_append]
    · rw [List.reduceOption_append, hsent, htaken, Inbox.sent_read]

theorem publish (h : Follows f i) (u : Update) :
    Follows (f.step (.publish u)) (i.step (.publish u)) where
  capacity_eq := h.capacity_eq
  capacity_pos := h.capacity_pos
  position_le := by
    rw [Follower.step, UpdateBus.publish, Array.size_push]
    exact Nat.le_succ_of_le h.position_le
  unread_eq := by
    have hposition : f.stream.subscription.position ≤ f.bus.published.toList.length := by
      rw [Array.length_toList]
      exact h.position_le
    rw [Follower.unread, Follower.step, UpdateBus.publish, Array.toList_push,
      List.drop_append_of_le_length hposition]
    exact congrArg (· ++ [u]) h.unread_eq
  frames_eq := h.frames_eq

/-- A client without unread updates has read to the end. -/
theorem position_eq_of_kept_eq_nil (h : Follows f i) (hkept : i.kept = []) :
    f.stream.subscription.position = f.bus.published.size := by
  have hpos := h.capacity_pos
  have hle := h.position_le
  have hlength := h.length_unread
  have hdrop := List.drop_eq_nil_iff.mp hkept
  omega

theorem poll (h : Follows f i) (now : Nat) : Follows (f.step (.poll now)) (i.step (.poll now)) := by
  rw [Follower.step, EventStream.next?, h.updates_receive, Inbox.step]
  cases hkept : i.kept with
  | cons u rest =>
      refine h.read 1 rfl ?_ ⟨[some u], rfl, ?_⟩
      · rw [hkept]
        rfl
      · rw [hkept]
        rfl
  | nil =>
      have hposition := h.position_eq_of_kept_eq_nil hkept
      have hread {f' : Follower} (parts : List (Option Update)) (hbus : f'.bus = f.bus)
          (hsubscription : f'.stream.subscription = f.stream.subscription)
          (hframes : f'.frames = f.frames ++ parts.map frame) (hparts : parts.reduceOption = []) :
          Follows f' (i.read 1) := by
        refine h.read 1 hbus ?_ ⟨parts, hframes, ?_⟩
        · rw [hsubscription, hposition, hkept]
          rfl
        · rw [hparts, hkept]
          rfl
      dsimp only
      split
      · rename_i hnext
        exact hread [] rfl rfl (List.append_nil _).symm rfl
      · rename_i next stream hnext
        split at hnext
        · obtain ⟨rfl, rfl⟩ := Prod.mk.inj (Option.some.inj hnext)
          exact hread [none] rfl rfl rfl rfl
        · cases hnext

theorem read_all (h : Follows f i) (now : Nat) :
    Follows (f.step (.read now)) (i.step (.read now)) := by
  have hlength : i.kept.length ≤ i.unread.length := by
    rw [Inbox.kept, List.length_drop]
    exact Nat.sub_le _ _
  have hread {f' : Follower} (parts : List (Option Update)) (hbus : f'.bus = f.bus)
      (hsubscription : f'.stream.subscription = f.bus.subscribe)
      (hframes : f'.frames = f.frames ++ parts.map frame) (hparts : parts.reduceOption = i.kept) :
      Follows f' (i.read i.unread.length) := by
    refine h.read _ hbus ?_ ⟨parts, hframes, ?_⟩
    · rw [hsubscription, List.drop_eq_nil_of_le hlength]
      rfl
    · rw [hparts, List.take_of_length_le hlength]
  simp only [Follower.step, EventStream.read_eq, h.updates_receive, Inbox.step]
  split
  · refine hread (i.kept.map some) rfl rfl ?_ ?_
    · rw [List.map_map]
      rfl
    · simp [List.reduceOption]
  · rename_i hkept
    rw [not_not] at hkept
    split
    · exact hread [none] rfl rfl rfl hkept.symm
    · exact hread [] rfl rfl rfl hkept.symm

theorem step (h : Follows f i) (moment : Moment) : Follows (f.step moment) (i.step moment) := by
  cases moment with
  | publish u => exact h.publish u
  | poll now => exact h.poll now
  | read now => exact h.read_all now

theorem run (h : Follows f i) (moments : List Moment) :
    Follows (f.run moments) (i.run moments) := by
  induction moments generalizing f i with
  | nil => exact h
  | cons moment rest ih => exact ih (h.step moment)

/-- A client that opens the stream has no updates to read. -/
theorem ofBus (bus : UpdateBus) (hcapacity : 0 < bus.capacity) (now : Nat) :
    Follows (.ofBus bus now) (.ofCapacity bus.capacity) where
  capacity_eq := rfl
  capacity_pos := hcapacity
  position_le := Nat.le_refl _
  unread_eq := List.drop_length
  frames_eq := ⟨[], rfl, rfl⟩

theorem parse_frames (h : Follows f i) :
    ServerEvent.parse (streamBytes f.frames) = i.sent.map Update.event := by
  obtain ⟨parts, hparts, hsent⟩ := h.frames_eq
  rw [hparts, parse_streamBytes, hsent]

end Follows

theorem UpdateBus.capacity_publishAll (bus : UpdateBus) (updates : List Update) :
    (updates.foldl publish bus).capacity = bus.capacity := by
  induction updates generalizing bus with
  | nil => rfl
  | cons u rest ih => exact ih (bus.publish u)

/-- What a client is sent is read as one event for each of some of the updates that were published
since it opened the stream, in their order. The next update it is sent is the oldest that it has not
read and that is still kept; so only the oldest unread ones are ever missing, and none is if no more
than are kept are ever unread. An event has the name of its kind, and its data is one line, which
holds that name too and the fields of the kind and nothing else: the endpoint and the number of the
request that was rendered, as a word of 64 bits, the panel that was entered and its title, or the text
of the alert. -/
theorem stream_carries_updates (capacity : Nat) (history : List Update) (opened : Nat)
    (moments : List Moment) :
    let limit := capacity.nextPowerOfTwo
    let follower := Follower.ofBus (history.foldl UpdateBus.publish (.ofCapacity capacity)) opened
    let client := follower.run moments
    let inbox := (Inbox.ofCapacity limit).run moments
    let published := moments.filterMap (·.update?)
    ServerEvent.parse (streamBytes client.frames) = inbox.sent.map Update.event ∧
      inbox.sent.Sublist published ∧
      inbox.taken.map (·.1) ++ client.unread = published ∧
      (∀ now,
        let kept := client.unread.drop (client.unread.length - limit)
        let next := client.step (.poll now)
        ServerEvent.parse (streamBytes next.frames) =
            (inbox.sent ++ kept.take 1).map Update.event ∧
          next.unread = kept.drop 1) ∧
      ((∀ before, before <+: moments → (follower.run before).unread.length ≤ limit) →
        inbox.sent ++ client.unread = published) ∧
      (∀ endpoint seq, ∃ n : Json.Integer, n.value = (seq % 2 ^ 64 : Nat) ∧
        (Update.rendered endpoint seq).event.Says "rendered"
          [ ("type", .string "rendered"), ("target", .string endpoint.label),
            ("seq", .number (.integer n)) ]) ∧
      (∀ panel title, (Update.navigated panel title).event.Says "navigated"
        [ ("type", .string "navigated"), ("panel", .string panel.name),
          ("title", .string title) ]) ∧
      (∀ message, (Update.alert message).event.Says "alert"
        [("type", .string "alert"), ("message", .string message)]) ∧
      [Endpoint.apiVersion, .adapters, .detectorConfig, .detectorStatus, .receivers,
          .processors].map (·.label) =
        ["api_version", "adapters", "detector_config", "detector_status", "receivers",
          "processors"] ∧
      [Panel.home, .detector, .receivers, .processors].map (·.name) =
        ["home-view", "detector-view", "fr-view", "fp-view"] := by
  intro limit follower client inbox published
  have hlimit : follower.bus.capacity = limit := UpdateBus.capacity_publishAll _ history
  have hpos : 0 < limit := Nat.pos_of_isPowerOfTwo (Nat.isPowerOfTwo_nextPowerOfTwo _)
  have hfollows (before : List Moment) :
      Follows (follower.run before) ((Inbox.ofCapacity limit).run before) := by
    have hopened := Follows.ofBus follower.bus (hlimit ▸ hpos) opened
    rw [hlimit] at hopened
    exact hopened.run before
  have hclient : Follows client inbox := hfollows moments
  have htaken : inbox.taken.map (·.1) ++ inbox.unread = published :=
    Inbox.taken_append_unread_run _ moments
  have hkept : inbox.kept = client.unread.drop (client.unread.length - limit) := by
    rw [Inbox.kept, Inbox.capacity_run, Inbox.ofCapacity, hclient.unread_eq]
  refine ⟨hclient.parse_frames, ?_, ?_, fun now => ?_, fun hlength => ?_, fun endpoint seq => ?_,
    fun panel title => (Update.navigated panel title).says_event,
    fun message => (Update.alert message).says_event, rfl, rfl⟩
  · rw [← htaken]
    exact inbox.sent_sublist_taken.trans (List.sublist_append_left _ _)
  · rw [hclient.unread_eq, htaken]
  · have hnext := hclient.poll now
    dsimp only
    rw [← hkept]
    refine ⟨?_, hnext.unread_eq⟩
    rw [hnext.parse_frames, Inbox.step, Inbox.sent_read]
  · rw [hclient.unread_eq, Inbox.sent_eq_taken_run rfl, htaken]
    intro before hbefore
    rw [← (hfollows before).unread_eq]
    exact hlength before hbefore
  · have hword : (UInt64.ofNat seq).toNat = seq % 2 ^ 64 := UInt64.toNat_ofNat'
    exact ⟨.ofUInt64 (.ofNat seq), congrArg Int.ofNat hword,
      (Update.rendered endpoint seq).says_event⟩

/-- An alert whose text looks like the end of an event and another one. -/
theorem stream_of_forged_alert :
    let u : Update := .alert "stopped\r\n\r\nevent: alert\ndata: 1\n\n"
    let client := (Follower.ofBus (.ofCapacity 1) 0).run [.publish u, .poll 0]
    ∃ e : ServerEvent, ServerEvent.parse (streamBytes client.frames) = [e] ∧
      e.data = "\x7b\"type\":\"alert\"," ++
        "\"message\":\"stopped\\r\\n\\r\\nevent: alert\\ndata: 1\\n\\n\"\x7d" ∧
      e.Says "alert" [ ("type", .string "alert"),
        ("message", .string "stopped\r\n\r\nevent: alert\ndata: 1\n\n") ] := by
  intro u client
  obtain ⟨hparse, -, -, -, hall, -, -, halert, -, -⟩ :=
    stream_carries_updates 1 [] 0 [.publish u, .poll 0]
  have hunread : client.unread = [] := by decide +kernel
  have hsent : ((Inbox.ofCapacity (Nat.nextPowerOfTwo 1)).run [.publish u, .poll 0]).sent ++
      client.unread = [u] := hall fun before hbefore => by
    rcases List.prefix_cons_iff.mp hbefore with rfl | ⟨rest, rfl, hrest⟩
    · decide +kernel
    · rcases List.prefix_cons_iff.mp hrest with rfl | ⟨last, rfl, hlast⟩
      · decide +kernel
      · rw [List.prefix_nil.mp hlast]
        decide +kernel
  rw [hunread, List.append_nil] at hsent
  exact ⟨u.event, hparse.trans (congrArg _ hsent), by decide +kernel, halert _⟩

end DetectorDashboard
