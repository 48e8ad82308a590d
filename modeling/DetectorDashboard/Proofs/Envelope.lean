import DetectorDashboard.Proofs.RefreshOutcome

/-! The envelopes of the status responses. Every response is an object, whose members are found by
their names; but a record is read from an array as well, by the places of its fields. So a body
that is no object is refused unless it is an array that spells out such an object place by place,
and then it is read as that object. -/

namespace DetectorDashboard

namespace Schema

theorem bind_eq_ok_iff {α β : Type} {x : Except DecodeError α} {f : α → Except DecodeError β}
    {y : β} : (x >>= f) = .ok y ↔ ∃ a, x = .ok a ∧ f a = .ok y := by
  cases x with
  | error e => simp [bind, Except.bind]
  | ok a => simp [bind, Except.bind]

/-- What is found for the fields decides what they are read as, and whether one of them is at
fault. -/
structure Fields.Lawful {α : Type} (fields : Fields α) : Prop where
  fault?_eq_none : ∀ source x, fields.read source = .ok x →
    ∀ name v, source.value? name = some v → fields.fault? name v = none
  read_congr : ∀ source source' : Source, source.value? = source'.value? →
    ∀ x, fields.read source = .ok x → fields.read source' = .ok x

namespace Fields.Lawful

variable {α β : Type}

theorem faultOf?_eq_none {d : Decoder α} {v : Json} {x : α} (h : d v = .ok x) :
    faultOf? d v = none := by
  rw [faultOf?, h]

theorem required (name : String) (d : Decoder α) : (Fields.required name d).Lawful where
  fault?_eq_none source x hread key v hv := by
    simp only [Fields.required] at hread ⊢
    split
    · rename_i hkey
      rw [← hkey, hv] at hread
      exact faultOf?_eq_none hread
    · rfl
  read_congr source source' hsame x hread := by
    simp only [Fields.required, hsame] at hread ⊢
    split at hread
    · exact hread
    · cases hread

theorem optional (name : String) (d : Decoder α) : (Fields.optional name d).Lawful where
  fault?_eq_none source x hread key v hv := by
    simp only [Fields.optional] at hread ⊢
    split
    · rename_i hkey
      rw [← hkey, hv] at hread
      exact faultOf?_eq_none hread
    · rfl
  read_congr source source' hsame x hread := by
    simp only [Fields.optional, hsame] at hread ⊢
    exact hread

theorem map {fields : Fields α} (h : fields.Lawful) (f : α → β) : (f <$> fields).Lawful where
  fault?_eq_none source x hread := by
    obtain ⟨y, hy, -⟩ := exists_of_map_eq_ok hread
    exact h.fault?_eq_none source y hy
  read_congr source source' hsame x hread := by
    obtain ⟨y, hy, rfl⟩ := exists_of_map_eq_ok hread
    exact congrArg (Except.map f) (h.read_congr source source' hsame y hy)

theorem seq {first : Fields (α → β)} {later : Fields α} (h : first.Lawful) (h' : later.Lawful) :
    (first <*> later).Lawful where
  fault?_eq_none source x hread name v hv := by
    obtain ⟨f, hf, hrest⟩ := bind_eq_ok_iff.mp hread
    obtain ⟨y, hy, -⟩ := bind_eq_ok_iff.mp hrest
    have hfirst := h.fault?_eq_none source f hf name v hv
    have hlater := h'.fault?_eq_none source y hy name v hv
    exact (congrArg (· <|> later.fault? name v) hfirst).trans hlater
  read_congr source source' hsame x hread := by
    obtain ⟨f, hf, hrest⟩ := bind_eq_ok_iff.mp hread
    obtain ⟨y, hy, hx⟩ := bind_eq_ok_iff.mp hrest
    have hf' := h.read_congr source source' hsame f hf
    have hy' := h'.read_congr source source' hsame y hy
    exact bind_eq_ok_iff.mpr ⟨f, hf', bind_eq_ok_iff.mpr ⟨y, hy', hx⟩⟩

end Fields.Lawful

/-! ### Arrays that spell out an object -/

theorem lookup_eq_lookup (key : String) (members : List (String × Json)) :
    Json.lookup key members = members.lookup key := by
  induction members with
  | nil => rfl
  | cons m rest ih =>
      rw [Json.lookup, List.find?_cons, List.lookup_cons, ← ih]
      by_cases hkey : m.1 = key
      · simp [hkey]
      · rw [beq_false_of_ne hkey, beq_false_of_ne (Ne.symm hkey)]
        rfl

theorem lookup_zip_of_mem {names : List String} (hnodup : names.Nodup) {items : List Json}
    {m : String × Json} (hm : m ∈ names.zip items) : (names.zip items).lookup m.1 = some m.2 := by
  induction names generalizing items with
  | nil => cases hm
  | cons name rest ih =>
      obtain ⟨hnew, hrest⟩ := List.nodup_cons.mp hnodup
      cases items with
      | nil => cases hm
      | cons item items =>
          rw [List.zip_cons_cons] at hm ⊢
          rcases List.mem_cons.mp hm with rfl | hm
          · exact List.lookup_cons_self
          · have hne : m.1 ≠ name := fun heq => hnew (heq ▸ (List.of_mem_zip hm).1)
            rw [List.lookup_cons, beq_false_of_ne hne]
            exact ih hrest hm

/-- A record is read from an array as from the object that the array spells out. -/
theorem record_array_iff {α : Type} {fields : Fields α} (h : fields.Lawful)
    (hnodup : fields.names.Nodup) (name : String) (items : List Json) (x : α) :
    record name fields (.array items) = .ok x ↔
      items.length ≤ fields.names.length ∧
        record name fields (.object (fields.names.zip items)) = .ok x := by
  have hsame : (Source.ofItems name fields.names items).value? =
      (Source.ofMembers (fields.names.zip items)).value? :=
    funext fun key => (lookup_eq_lookup key _).symm
  have harray : record name fields (.array items) = .ok x ↔
      fields.read (.ofItems name fields.names items) = .ok x ∧
        items.length ≤ fields.names.length := by
    rw [record, bind_eq_ok_iff]
    by_cases hlength : fields.names.length < items.length
    · simp [hlength, throw, throwThe, MonadExceptOf.throw, bind, Except.bind]
    · simp [hlength, pure, Except.pure, Nat.le_of_not_lt hlength]
  have hobject : record name fields (.object (fields.names.zip items)) = .ok x ↔
      fields.read (.ofMembers (fields.names.zip items)) = .ok x := by
    simp only [record]
    split
    · rename_i e hfault
      refine iff_of_false nofun fun hread => ?_
      obtain ⟨m, hm, hm'⟩ := List.exists_of_findSome?_eq_some hfault
      have hvalue : (Source.ofMembers (fields.names.zip items)).value? m.1 = some m.2 :=
        (lookup_eq_lookup _ _).trans (lookup_zip_of_mem hnodup hm)
      rw [h.fault?_eq_none _ x hread m.1 m.2 hvalue] at hm'
      cases hm'
    · rfl
  rw [harray, hobject, and_comm]
  exact and_congr_right fun _ =>
    ⟨h.read_congr _ _ hsame x, h.read_congr _ _ hsame.symm x⟩

/-- What is read is an object, or an array that spells out one by the places of the names. -/
structure Enveloped {α : Type} (names : List String) (d : Decoder α) : Prop where
  shape : ∀ body x, d body = .ok x →
    (∃ members, body = .object members) ∨ ∃ items, body = .array items
  array_iff : ∀ items x, d (.array items) = .ok x ↔
    items.length ≤ names.length ∧ d (.object (names.zip items)) = .ok x

namespace Enveloped

variable {α β : Type} {names : List String}

theorem record {fields : Fields α} (h : fields.Lawful) (hnodup : fields.names.Nodup)
    (name : String) : Enveloped fields.names (record name fields) where
  shape body x hread := by
    cases body with
    | object members => exact .inl ⟨members, rfl⟩
    | array items => exact .inr ⟨items, rfl⟩
    | _ => cases hread
  array_iff items x := record_array_iff h hnodup name items x

/-- What is read may be looked at further. -/
theorem bind {d : Decoder α} (h : Enveloped names d) (f : α → Except DecodeError β) :
    Enveloped names fun body => d body >>= f where
  shape body y hread := by
    obtain ⟨x, hx, -⟩ := bind_eq_ok_iff.mp hread
    exact h.shape body x hx
  array_iff items y := by
    simp only [bind_eq_ok_iff, h.array_iff]
    constructor
    · rintro ⟨x, ⟨hlength, hx⟩, hy⟩
      exact ⟨hlength, x, hx, hy⟩
    · rintro ⟨hlength, x, hx, hy⟩
      exact ⟨x, ⟨hlength, hx⟩, hy⟩

theorem map {d : Decoder α} (h : Enveloped names d) (f : α → β) : Enveloped names (d.map f) := by
  have hbind : d.map f = fun body => d body >>= fun x => .ok (f x) := by
    funext body
    rw [Decoder.map]
    cases d body <;> rfl
  exact hbind ▸ h.bind fun x => .ok (f x)

end Enveloped

end Schema

/-- The names of the members of a response, in the order in which they are declared. -/
def Endpoint.envelope : Endpoint → List String
  | .apiVersion => ["api"]
  | .adapters => ["adapters"]
  | .detectorConfig => ["count_time", "frame_time", "nimages"]
  | .detectorStatus => ["acquisition_complete", "state"]
  | .receivers | .processors => ["value"]

/-- An array that holds the members of a response, by their places instead of their names. -/
def Json.Spells (e : Endpoint) (body : Json) (response : StatusResponse) : Prop :=
  ∃ items, body = .array items ∧ items.length ≤ e.envelope.length ∧
    StatusResponse.decode e (.object (e.envelope.zip items)) = .ok response

namespace StatusResponse

open Schema

theorem enveloped_units {α : Type} (detail : Decoder α) : Enveloped ["value"] (units detail) :=
  (Enveloped.record (.required "value" _) (by decide) "UnitList").bind _

theorem enveloped_decoder (e : Endpoint) : Enveloped e.envelope (decoder e) := by
  cases e with
  | apiVersion => exact (Enveloped.record (.required "api" _) (by decide) "ApiInfo").map _
  | adapters => exact (Enveloped.record (.required "adapters" _) (by decide) "AdapterList").map _
  | detectorConfig =>
      have hfields := (((Fields.Lawful.required "count_time" (parameter binary64)).map
        DetectorConfig.mk).seq (.required "frame_time" (parameter binary64))).seq
        (.required "nimages" (parameter number))
      exact (Enveloped.record hfields (by decide) "DetectorConfig").map _
  | detectorStatus =>
      have hfields := ((Fields.Lawful.required "acquisition_complete"
        (parameter Flag.decoder)).map DetectorStatus.mk).seq
        (.optional "state" (parameter string))
      exact (Enveloped.record hfields (by decide) "DetectorStatus").map _
  | receivers => exact (enveloped_units receiver).map _
  | processors => exact (enveloped_units processor).map _

/-- A body that is no object is a response just if it spells one. -/
theorem decode_eq_ok_iff_spells {e : Endpoint} {body : Json}
    (hbody : ∀ members, body ≠ .object members) (response : StatusResponse) :
    decode e body = .ok response ↔ body.Spells e response := by
  rw [decode_eq_ok_iff]
  constructor
  · intro hread
    rcases (enveloped_decoder e).shape body response hread with ⟨members, rfl⟩ | ⟨items, rfl⟩
    · exact absurd rfl (hbody members)
    · obtain ⟨hlength, hobject⟩ := ((enveloped_decoder e).array_iff items response).mp hread
      exact ⟨items, rfl, hlength, decode_eq_ok_iff.mpr hobject⟩
  · rintro ⟨items, rfl, hlength, hobject⟩
    exact ((enveloped_decoder e).array_iff items response).mpr
      ⟨hlength, decode_eq_ok_iff.mp hobject⟩

theorem exists_error_of_decode_ne_ok {e : Endpoint} {body : Json}
    (h : ∀ response, decode e body ≠ .ok response) :
    ∃ cause, decode e body = .error ⟨e, cause⟩ := by
  rw [decode] at h ⊢
  cases hread : decoder e body with
  | error cause => exact ⟨cause, rfl⟩
  | ok response => exact absurd (by rw [hread]; rfl) (h response)

end StatusResponse

namespace Application

/-- An answer that cannot be read changes nothing that is shown or announced. -/
theorem untouched_of_unreadable {settings : Settings} {sizes : Sizes} {events : List Event}
    {p : PendingCall} (hp : p ∈ ((ofSettings settings sizes).run events).pending) {e : Endpoint}
    {seq : Nat} (hrequest : p.purpose.request? = some (e, seq)) {body : Json} {error : SchemaError}
    (hdecode : StatusResponse.decode e body = .error error) (now : Timestamp) :
    Untouched ((ofSettings settings sizes).run events)
      (((ofSettings settings sizes).run events).step (.deliver now p.id (.ok body))) := by
  refine step_deliver_of_receive (fun _ => ⟨fun h => ⟨h.1, h.2, h.3⟩, fun h => ⟨h.1, h.2, h.3⟩⟩)
    (find?_of_mem_pending hp) hrequest now (.ok body) ?_
  simp only [receive, hdecode]
  exact ⟨rfl, rfl, rfl⟩

/-- A body that is no object is a response just if it is an array that spells one place by place.
Any other is refused, with an error that names the endpoint, and changes nothing that is shown. -/
theorem refused_unless_spelled (e : Endpoint) (body : Json)
    (hbody : ∀ members, body ≠ .object members) :
    (∀ response, StatusResponse.decode e body = .ok response ↔ body.Spells e response) ∧
      ((∀ response, ¬ body.Spells e response) →
        (∃ cause, StatusResponse.decode e body = .error ⟨e, cause⟩) ∧
          ∀ settings sizes events p seq now,
            let a := (ofSettings settings sizes).run events
            p ∈ a.pending → p.purpose.request? = some (e, seq) →
              Untouched a (a.step (.deliver now p.id (.ok body)))) := by
  have hspells := StatusResponse.decode_eq_ok_iff_spells (e := e) hbody
  refine ⟨hspells, fun hnone => ?_⟩
  obtain ⟨cause, hdecode⟩ := StatusResponse.exists_error_of_decode_ne_ok fun response hread =>
    hnone response ((hspells response).mp hread)
  refine ⟨⟨cause, hdecode⟩, ?_⟩
  intro settings sizes events p seq now a hp hrequest
  exact untouched_of_unreadable hp hrequest hdecode now

/-- A list of units without its envelope. -/
theorem refused_list_of_units :
    let body : Json := .array [.number (.count 1), .number (.count 2)]
    let a := (ofSettings {} {}).run [.request .processors .request]
    (∀ members, body ≠ .object members) ∧ (∀ response, ¬ body.Spells .processors response) ∧
      (∃ cause, StatusResponse.decode .processors body = .error ⟨.processors, cause⟩) ∧
      Untouched a (a.step (.deliver ⟨0, 0⟩ 0 (.ok body))) := by
  intro body a
  have hbody : ∀ members, body ≠ .object members := nofun
  have hspells : ∀ response, ¬ body.Spells .processors response := by
    rintro response ⟨items, hitems, hlength, -⟩
    obtain rfl := Json.array.inj hitems
    revert hlength
    decide
  obtain ⟨hrefused, huntouched⟩ := (refused_unless_spelled .processors body hbody).2 hspells
  exact ⟨hbody, hspells, hrefused, huntouched {} {} [.request .processors .request]
    ⟨0, ⟨.get, _, none⟩, .status .processors 0 0⟩ 0 ⟨0, 0⟩ List.mem_cons_self rfl⟩

/-- The version in an array is shown, though it has no envelope. -/
theorem version_read_from_array :
    let body : Json := .array [.string "1.6.0"]
    let a := (ofSettings {} {}).run [.request .apiVersion .request]
    (∀ members, body ≠ .object members) ∧
      StatusResponse.decode .apiVersion body = .ok (.apiVersion "1.6.0") ∧
      a.dashboard.page.get? CellId.apiVersion = none ∧
      (a.step (.deliver ⟨0, 0⟩ 0 (.ok body))).dashboard.page.get? CellId.apiVersion =
        some (.text "1.6.0") := by
  intro body a
  exact ⟨nofun, by rfl, by rfl, by rfl⟩

end Application

end DetectorDashboard
