import Mathlib.Logic.Relation
import DetectorDashboard.Proofs.Tolerance

/-! The responses are open to additions. Every object that is read by its fields may have other
members as well, with any values and anywhere among its own; however many of them are put into a
body, it is read as it was without them. A unit alone has a member that is no field and counts, the
one that says whether it is connected. -/

namespace DetectorDashboard

namespace StatusResponse

open Schema

variable {α β : Type} {strict : Prop}

theorem tolerates_map {d : Decoder α} {s : Shape} (h : d.Tolerates strict (Same strict) s)
    (f : α → β) : (d.map f).Tolerates strict (Same strict) s :=
  fun v w halters => (h v w halters).map fun _ _ hxy hstrict => congrArg f (hxy hstrict)

/-- A field that has to be there. -/
theorem tolerates_required {d : Decoder α} {s : Shape} (h : d.Tolerates strict (Same strict) s)
    (name : String) : (Fields.required name d).Tolerates strict (Same strict) [(name, s)] :=
  .required (fun _ _ => rfl) h name

theorem tolerates_flag_field (name : String) :
    (Fields.required name Flag.decoder).Tolerates strict (Same strict) [(name, .flag)] :=
  tolerates_required tolerates_flag name

theorem tolerates_plain_field (name : String) (d : Decoder α) :
    (Fields.required name d).Tolerates strict (Same strict) [(name, .plain)] :=
  tolerates_required (tolerates_plain d) name

theorem tolerates_parameter {d : Decoder α} {s : Shape} (h : d.Tolerates strict (Same strict) s) :
    (parameter d).Tolerates strict (Same strict) (.parameter s) :=
  (tolerates_required h "value").record (List.nodup_singleton _) "Param" []

theorem tolerates_apiInfo : apiInfo.Tolerates strict (Same strict) Endpoint.apiVersion.shape :=
  (tolerates_plain_field "api" version).record (by decide) "ApiInfo" []

theorem tolerates_adapterList :
    adapterList.Tolerates strict (Same strict) Endpoint.adapters.shape :=
  (tolerates_plain_field "adapters" _).record (by decide) "AdapterList" []

theorem tolerates_config :
    config.Tolerates strict (Same strict) Endpoint.detectorConfig.shape := by
  have htime : (parameter binary64).Tolerates strict (Same strict) (.parameter .plain) :=
    tolerates_parameter (tolerates_plain binary64)
  have himages : (parameter number).Tolerates strict (Same strict) (.parameter .plain) :=
    tolerates_parameter (tolerates_plain number)
  have hfields := ((tolerates_required htime "count_time").map DetectorConfig.mk).seq
    (tolerates_required htime "frame_time") |>.seq (tolerates_required himages "nimages")
  exact hfields.record (by decide) "DetectorConfig" []

theorem tolerates_status :
    status.Tolerates strict (Same strict) Endpoint.detectorStatus.shape := by
  have hcomplete : (parameter Flag.decoder).Tolerates strict (Same strict) (.parameter .flag) :=
    tolerates_parameter tolerates_flag
  have hstate : (parameter string).Tolerates strict (Same strict) (.parameter .plain) :=
    tolerates_parameter (tolerates_plain string)
  have hfields := ((tolerates_required hcomplete "acquisition_complete").map
    DetectorStatus.mk).seq (.optional hstate nofun "state")
  exact hfields.record (by decide) "DetectorStatus" []

/-! ### Units -/

theorem tolerates_receiver :
    receiver.Tolerates strict (Same strict) (UnitKind.shape .receiver) := by
  have hflags : receiverFlags.Tolerates strict (Same strict) _ :=
    ((((tolerates_flag_field "buffer_manager_configured").map ReceiverFlags.mk).seq
      (tolerates_flag_field "rx_thread_configured")).seq
      (tolerates_flag_field "decoder_configured") |>.seq
      (tolerates_flag_field "ipc_configured") |>.seq
      (tolerates_flag_field "configuration_complete")).record (by decide) "ReceiverFlags" []
  have hbuffers : receiverBuffers.Tolerates strict (Same strict) _ :=
    (tolerates_plain_field "empty" uint64).record (by decide) "ReceiverBuffers" []
  have hframes : receiverFrames.Tolerates strict (Same strict) _ :=
    (((tolerates_plain_field "received" uint64).map ReceiverFrames.mk).seq
      (tolerates_plain_field "timedout" uint64) |>.seq
      (tolerates_plain_field "released" uint64)).record (by decide) "ReceiverFrames" []
  have hfields := ((tolerates_required hflags "status").map receiverOf).seq
    (tolerates_required hbuffers "buffers") |>.seq (tolerates_required hframes "frames")
  exact hfields.record (by decide) "ReceiverDetail" ["connected"]

theorem tolerates_processor :
    processor.Tolerates strict (Same strict) (UnitKind.shape .processor) := by
  have hname : (Fields.optional "file_name" string).Tolerates strict (Same strict) _ :=
    .optional (tolerates_plain string) nofun "file_name"
  have hmemory : sharedMemory.Tolerates strict (Same strict) _ :=
    (tolerates_flag_field "configured").record (by decide) "SharedMemory" []
  have hwriter : writer.Tolerates strict (Same strict) _ :=
    ((((tolerates_plain_field "processes" uint64).map Writer.mk).seq
      (tolerates_plain_field "rank" int64)).seq
      (tolerates_plain_field "frames_written" uint64) |>.seq
      (tolerates_plain_field "frames_max" uint64) |>.seq hname |>.seq
      (tolerates_flag_field "writing")).record (by decide) "HdfStatus" []
  have hfields := ((tolerates_required hmemory "shared_memory").map processorOf).seq
    (tolerates_required hwriter "hdf")
  exact hfields.record (by decide) "ProcessorDetail" ["connected"]

/-- A change leaves a reserved member as it is. -/
theorem member?_eq_of_alters {reserved : List String} {fields : List (String × Shape)}
    {v w : Json} (h : (Shape.record reserved fields).Alters strict v w) {name : String}
    (hreserved : name ∈ reserved) (hfields : name ∉ fields.map (·.1)) :
    v.member? name = w.member? name := by
  obtain ⟨path, t, c, x, y, hplace, hchange, rfl, rfl⟩ := h
  cases hplace with
  | here =>
      cases hchange with
      | member members key value hkey _ =>
          have hne : key ≠ name := fun heq => hkey (heq.symm ▸ hreserved)
          exact (Json.lookup_insert_of_ne hne value members).symm
  | @member _ _ key _ _ _ _ before after hfield hfirst _ =>
      have hne : key ≠ name := by
        rintro rfl
        exact hfields (List.mem_map_of_mem (f := (·.1)) (Shape.mem_of_lookup hfield))
      simp only [Json.member?, Json.lookup_append_cons _ _ _ _ hfirst, if_neg hne]
  | element => rfl

theorem tolerates_unit {detail : Decoder α} {fields : List (String × Shape)}
    (h : detail.Tolerates strict (Same strict) (.record ["connected"] fields))
    (hfields : "connected" ∉ fields.map (·.1)) :
    (unit detail).Tolerates strict (Same strict) (.record ["connected"] fields) := by
  intro v w halters
  rw [unit, unit, member?_eq_of_alters halters List.mem_cons_self hfields]
  split
  · exact (h v w halters).map fun _ _ hxy hstrict => congrArg UnitStatus.connected (hxy hstrict)
  · exact .ok fun _ => rfl

theorem tolerates_units {detail : Decoder α} {s : Shape}
    (h : (unit detail).Tolerates strict (Same strict) s) :
    (units detail).Tolerates strict (Same strict) (.record [] [("value", .list s)]) := by
  -- the list is taken apart before its items are read, so only that they are read alike is known
  have hlist : (list anything).Tolerates strict (ReadAlike strict (unit detail)) (.list s) := by
    rintro _ _ ⟨path, t, c, x, y, hplace, hchange, rfl, rfl⟩
    cases hplace with
    | here => cases hchange
    | item before after hplace =>
        simp only [list, mapM_anything]
        exact .ok (.of_item (h _ _ (.intro hplace hchange)) before after)
  have hfields := Fields.Tolerates.required (ReadAlike.refl (unit detail)) hlist "value"
  have hrecord := hfields.record (List.nodup_singleton _) "UnitList" []
  exact fun v w halters => (hrecord v w halters).bind fun _ _ hitems => hitems

theorem tolerates_decoder (e : Endpoint) : (decoder e).Tolerates strict (Same strict) e.shape := by
  cases e with
  | apiVersion => exact tolerates_map tolerates_apiInfo _
  | adapters => exact tolerates_map tolerates_adapterList _
  | detectorConfig => exact tolerates_map tolerates_config _
  | detectorStatus => exact tolerates_map tolerates_status _
  | receivers =>
      exact tolerates_map (tolerates_units (tolerates_unit tolerates_receiver (by decide))) _
  | processors =>
      exact tolerates_map (tolerates_units (tolerates_unit tolerates_processor (by decide))) _

end StatusResponse

/-! ### Additions -/

/-- A member more in one of the objects that are read by their fields, under a name that no field
has. -/
inductive Shape.Adds (s : Shape) : Json → Json → Prop
  | intro {path : List Key} {reserved : List String} {fields : List (String × Shape)}
      {c : Json → Json} (hplace : s.Place path (.record reserved fields) c)
      (members : List (String × Json)) (key : String) (value : Json)
      (hreserved : key ∉ reserved) (hfields : key ∉ fields.map (·.1)) :
      Adds s (c (.object members)) (c (.object (Json.insert key value members)))

namespace StatusResponse

open Schema

theorem decode_eq_of_adds {e : Endpoint} {body extended : Json}
    (h : e.shape.Adds body extended) : decode e extended = decode e body := by
  obtain ⟨hplace, members, key, value, hreserved, hfields⟩ := h
  have hchange : Shape.Change True (.record _ _) (.object members)
      (.object (Json.insert key value members)) := .member members key value hreserved hfields
  have hagree := (tolerates_decoder e _ _ (.intro hplace hchange)).eq trivial
  rw [decode, decode, hagree]

/-- However many members are put into the objects of a body, it is read as it was without them. -/
theorem decode_of_additions (e : Endpoint) (body extended : Json)
    (h : Relation.ReflTransGen e.shape.Adds body extended) :
    decode e extended = decode e body := by
  induction h with
  | refl => rfl
  | tail _ hadds ih => exact (decode_eq_of_adds hadds).trans ih

/-- Additions to the writer of a processor, before all that it has, and to the whole body. -/
theorem processors_of_extended_body :
    let writer : List (String × Json) :=
      [ ("frames_max", .number (.count 10)), ("frames_written", .number (.count 5)),
        ("processes", .number (.count 2)), ("rank", .number (.count 0)),
        ("writing", .string "0") ]
    let body (writer more : List (String × Json)) : Json :=
      .object (("value", .array [.object
        [ ("connected", .bool true), ("hdf", .object writer),
          ("shared_memory", .object [("configured", .number (.count 1))]) ]]) :: more)
    let extended := body (("connected", .null) :: writer) [("values", .array [])]
    Relation.ReflTransGen (Endpoint.shape .processors).Adds (body writer []) extended ∧
      decode .processors extended = decode .processors (body writer []) ∧
      decode .processors extended =
        .ok (.processors [.connected ⟨true, 2, 0, 5, 10, none, false⟩]) := by
  intro writer body extended
  have hwriter : (Endpoint.shape .processors).Adds (body writer [])
      (body (("connected", .null) :: writer) []) := by
    exact .intro (.member [] [] rfl nofun (.item [] [] (.member
      [("connected", .bool true)] [("shared_memory", _)] rfl (by decide)
      (.here _)))) writer "connected" .null nofun (by decide)
  have hbody : (Endpoint.shape .processors).Adds (body (("connected", .null) :: writer) [])
      extended :=
    .intro (.here _) _ "values" (.array []) nofun (by decide)
  have hadds : Relation.ReflTransGen (Endpoint.shape .processors).Adds (body writer []) extended :=
    .tail (.tail .refl hwriter) hbody
  have hsame := decode_of_additions .processors _ _ hadds
  exact ⟨hadds, hsame, hsame.trans rfl⟩

end StatusResponse

end DetectorDashboard
