import DetectorDashboard.Proofs.RecordReading
import DetectorDashboard.Proofs.UnitRows

/-! The columns of a unit table. Each shows a field of its own of the unit in the row: a lamp for a
flag, a whole number as it was sent, the frames written out of those to be written, or the name of a
file. What a unit has elsewhere, and what other units have, does not get into the column. -/

namespace DetectorDashboard

/-! ### What the columns show -/

/-- What a column shows of a unit: a lamp for a flag, a whole number, one out of another, or a text
that need not be there. -/
inductive Exhibit
  | lamp (part name : String)
  | integer (part name : String)
  | progress (part name total : String)
  | text (part name : String)
deriving DecidableEq

namespace Exhibit

def digits? : Json → Option String
  | .number (.integer n) => some (Text.decimalInt n.value)
  | _ => none

/-- The cell, from the fields of the unit. -/
def cell? (field? : String → String → Option Json) : Exhibit → Option Cell
  | .lamp part name => do
      let flag ← field? part name
      return .indicator ⟨Flag.isOn flag, .green, 20⟩
  | .integer part name => do
      let n ← digits? (← field? part name)
      return .text n
  | .progress part name total => do
      let n ← digits? (← field? part name)
      let maximum ← digits? (← field? part total)
      return .text (n ++ " / " ++ maximum)
  | .text part name =>
      match field? part name with
      | some (.string s) => some (.text s)
      | some .null | none => some (.text "")
      | _ => none

end Exhibit

namespace UnitKind

/-- The columns beside the one that shows the connection, in their order. -/
def exhibits : UnitKind → List (String × Exhibit)
  | .receiver =>
    [ ("buffer-manager", .lamp "status" "buffer_manager_configured"),
      ("rx-thread", .lamp "status" "rx_thread_configured"),
      ("decoder", .lamp "status" "decoder_configured"),
      ("ipc", .lamp "status" "ipc_configured"),
      ("config-complete", .lamp "status" "configuration_complete"),
      ("empty-buffers", .integer "buffers" "empty"),
      ("frames-received", .integer "frames" "received"),
      ("frames-timed-out", .integer "frames" "timedout"),
      ("frames-released", .integer "frames" "released") ]
  | .processor =>
    [ ("shared-mem", .lamp "shared_memory" "configured"),
      ("hdf-processes", .integer "hdf" "processes"),
      ("hdf-rank", .integer "hdf" "rank"),
      ("hdf-written", .progress "hdf" "frames_written" "frames_max"),
      ("hdf-file-path", .text "hdf" "file_name"),
      ("writing", .lamp "hdf" "writing") ]

/-- A field of the unit in place `i` of a body. -/
def field? (kind : UnitKind) (body : Json) (i : Nat) (part name : String) : Option Json :=
  kind.endpoint.shape.at? [.field "value", .item i, .field part, .field name] body

/-- The parts that a unit describes itself by. -/
def parts (kind : UnitKind) : List String :=
  kind.fields.map (·.1)

/-- A field of a part of a unit. -/
def ownField? (kind : UnitKind) (unit : Json) (part name : String) : Option Json :=
  kind.shape.at? [.field part, .field name] unit

/-- The columns show the fields of a unit, each its own. -/
def Exhibits (kind : UnitKind) (field? : String → String → Option Json) (detail : kind.Detail) :
    Prop :=
  List.Forall₂ (fun c e => c.name = e.1 ∧ e.2.cell? field? = some (c.cell detail))
    kind.detailColumns kind.exhibits

theorem Exhibits.exists_column {kind : UnitKind} {field? : String → String → Option Json}
    {detail : kind.Detail} (h : kind.Exhibits field? detail) {column : String} {exhibit : Exhibit}
    (hcolumn : (column, exhibit) ∈ kind.exhibits) :
    ∃ c ∈ kind.detailColumns, c.name = column ∧ exhibit.cell? field? = some (c.cell detail) := by
  obtain ⟨n, hn, hat⟩ := List.getElem_of_mem hcolumn
  have hn' : n < kind.detailColumns.length := h.length_eq ▸ hn
  obtain ⟨hname, hcell⟩ := h.get hn' hn
  simp only [List.get_eq_getElem, hat] at hname hcell
  exact ⟨_, List.getElem_mem hn', hname, hcell⟩

end UnitKind

namespace Exhibit

open Schema

variable {field? : String → String → Option Json} {part name : String}

theorem cell?_lamp {on : Bool} (h : Reads Flag.decoder (field? part name) on) :
    (lamp part name).cell? field? = some (.indicator (.healthy on)) := by
  obtain ⟨v, hv, hon⟩ := h
  obtain rfl := Except.ok.inj hon
  simp only [cell?, hv]
  rfl

theorem digits?_of_uint64 {v : Json} {n : UInt64} (h : uint64 v = .ok n) :
    digits? v = some (Text.decimal n.toNat) := by
  obtain ⟨m, rfl, hm⟩ := uint64_cases h
  rw [digits?, hm]
  rfl

theorem cell?_integer {n : UInt64} (h : Reads uint64 (field? part name) n) :
    (integer part name).cell? field? = some (.text (Text.decimal n.toNat)) := by
  obtain ⟨v, hv, hn⟩ := h
  simp only [cell?, hv, Option.bind_eq_bind, Option.bind_some, digits?_of_uint64 hn]
  rfl

theorem cell?_signed {n : Int64} (h : Reads int64 (field? part name) n) :
    (integer part name).cell? field? = some (.text (Text.decimalInt n.toInt)) := by
  obtain ⟨v, hv, hn⟩ := h
  obtain ⟨m, rfl, hm⟩ := int64_cases hn
  simp only [cell?, hv, Option.bind_eq_bind, Option.bind_some, digits?, hm]
  rfl

theorem cell?_progress {total : String} {n maximum : UInt64} (h : Reads uint64 (field? part name) n)
    (h' : Reads uint64 (field? part total) maximum) :
    (progress part name total).cell? field? =
      some (.text (Text.decimal n.toNat ++ " / " ++ Text.decimal maximum.toNat)) := by
  obtain ⟨v, hv, hn⟩ := h
  obtain ⟨w, hw, hm⟩ := h'
  simp only [cell?, hv, hw, Option.bind_eq_bind, Option.bind_some, digits?_of_uint64 hn,
    digits?_of_uint64 hm]
  rfl

/-- A text that is not there is shown as the empty text, and so is null. -/
theorem cell?_text {text? : Option String}
    (h : ReadsOptional Schema.string (field? part name) text?) :
    (text part name).cell? field? = some (.text (text?.getD "")) := by
  simp only [cell?]
  generalize field? part name = value? at h
  cases value? with
  | none =>
      obtain rfl := Except.ok.inj h
      rfl
  | some v =>
      cases v with
      | null =>
          obtain rfl := Except.ok.inj h
          rfl
      | string s =>
          obtain rfl := Except.ok.inj h
          rfl
      | _ => cases h

end Exhibit

namespace StatusResponse

open Schema

variable {v : Json}

/-! ### The parts of a unit -/

theorem reads_receiverFlags {flags : ReceiverFlags}
    (h : Reads receiverFlags (v.field? (UnitKind.parts .receiver) "status") flags) :
    let flag? := UnitKind.ownField? .receiver v "status"
    Reads Flag.decoder (flag? "buffer_manager_configured") flags.bufferManager ∧
      Reads Flag.decoder (flag? "rx_thread_configured") flags.receiveThread ∧
      Reads Flag.decoder (flag? "decoder_configured") flags.decoder ∧
      Reads Flag.decoder (flag? "ipc_configured") flags.channel ∧
      Reads Flag.decoder (flag? "configuration_complete") flags.complete := by
  obtain ⟨source, hsource, hread⟩ := h.exists_source _ (UnitKind.fields .receiver) rfl rfl
  simp only [List.map_cons, List.forall_mem_cons] at hsource
  simp only [read_seq_iff, read_map_iff, read_required_iff, hsource] at hread
  obtain ⟨_, _, ⟨_, _, ⟨_, _, ⟨_, _, ⟨_, hmanager, rfl⟩, hthread, rfl⟩, hdecoder, rfl⟩, hchannel,
    rfl⟩, hcomplete, rfl⟩ := hread
  exact ⟨hmanager, hthread, hdecoder, hchannel, hcomplete⟩

theorem reads_receiverBuffers {n : UInt64}
    (h : Reads receiverBuffers (v.field? (UnitKind.parts .receiver) "buffers") n) :
    Reads uint64 (UnitKind.ownField? .receiver v "buffers" "empty") n := by
  obtain ⟨source, hsource, hread⟩ := h.exists_source _ (UnitKind.fields .receiver) rfl rfl
  rw [read_required_iff, hsource _ List.mem_cons_self] at hread
  exact hread

theorem reads_receiverFrames {frames : ReceiverFrames}
    (h : Reads receiverFrames (v.field? (UnitKind.parts .receiver) "frames") frames) :
    let count? := UnitKind.ownField? .receiver v "frames"
    Reads uint64 (count? "received") frames.received ∧
      Reads uint64 (count? "timedout") frames.timedOut ∧
      Reads uint64 (count? "released") frames.released := by
  obtain ⟨source, hsource, hread⟩ := h.exists_source _ (UnitKind.fields .receiver) rfl rfl
  simp only [List.map_cons, List.forall_mem_cons] at hsource
  simp only [read_seq_iff, read_map_iff, read_required_iff, hsource] at hread
  obtain ⟨_, _, ⟨_, _, ⟨_, hreceived, rfl⟩, htimedOut, rfl⟩, hreleased, rfl⟩ := hread
  exact ⟨hreceived, htimedOut, hreleased⟩

theorem reads_sharedMemory {configured : Bool}
    (h : Reads sharedMemory (v.field? (UnitKind.parts .processor) "shared_memory") configured) :
    Reads Flag.decoder (UnitKind.ownField? .processor v "shared_memory" "configured")
      configured := by
  obtain ⟨source, hsource, hread⟩ := h.exists_source _ (UnitKind.fields .processor) rfl rfl
  rw [read_required_iff, hsource _ List.mem_cons_self] at hread
  exact hread

theorem reads_writer {w : Writer}
    (h : Reads writer (v.field? (UnitKind.parts .processor) "hdf") w) :
    let field? := UnitKind.ownField? .processor v "hdf"
    Reads uint64 (field? "processes") w.processes ∧
      Reads int64 (field? "rank") w.rank ∧
      Reads uint64 (field? "frames_written") w.written ∧
      Reads uint64 (field? "frames_max") w.maximum ∧
      ReadsOptional Schema.string (field? "file_name") w.fileName ∧
      Reads Flag.decoder (field? "writing") w.writing := by
  obtain ⟨source, hsource, hread⟩ := h.exists_source _ (UnitKind.fields .processor) rfl rfl
  simp only [List.map_cons, List.forall_mem_cons] at hsource
  simp only [read_seq_iff, read_map_iff, read_required_iff, read_optional_iff, hsource] at hread
  obtain ⟨_, _, ⟨_, _, ⟨_, _, ⟨_, _, ⟨_, _, ⟨_, hprocesses, rfl⟩, hrank, rfl⟩, hwritten, rfl⟩,
    hmaximum, rfl⟩, hname, rfl⟩, hwriting, rfl⟩ := hread
  exact ⟨hprocesses, hrank, hwritten, hmaximum, hname, hwriting⟩

/-! ### Whole units -/

theorem exhibits_receiver {x : Receiver} (h : receiver v = .ok x) :
    UnitKind.Exhibits .receiver (UnitKind.ownField? .receiver v) x := by
  obtain ⟨source, hsource, hread⟩ := exists_of_record_eq_ok h (UnitKind.parts .receiver) rfl
  simp only [read_seq_iff, read_map_iff, read_required_iff, hsource] at hread
  obtain ⟨_, _, ⟨_, _, ⟨_, hstatus, rfl⟩, hbuffers, rfl⟩, hframes, rfl⟩ := hread
  obtain ⟨hmanager, hthread, hdecoder, hchannel, hcomplete⟩ := reads_receiverFlags hstatus
  have hempty := reads_receiverBuffers hbuffers
  obtain ⟨hreceived, htimedOut, hreleased⟩ := reads_receiverFrames hframes
  exact .cons ⟨rfl, Exhibit.cell?_lamp hmanager⟩ <| .cons ⟨rfl, Exhibit.cell?_lamp hthread⟩ <|
    .cons ⟨rfl, Exhibit.cell?_lamp hdecoder⟩ <| .cons ⟨rfl, Exhibit.cell?_lamp hchannel⟩ <|
    .cons ⟨rfl, Exhibit.cell?_lamp hcomplete⟩ <| .cons ⟨rfl, Exhibit.cell?_integer hempty⟩ <|
    .cons ⟨rfl, Exhibit.cell?_integer hreceived⟩ <| .cons ⟨rfl, Exhibit.cell?_integer htimedOut⟩ <|
    .cons ⟨rfl, Exhibit.cell?_integer hreleased⟩ .nil

theorem exhibits_processor {x : Processor} (h : processor v = .ok x) :
    UnitKind.Exhibits .processor (UnitKind.ownField? .processor v) x := by
  obtain ⟨source, hsource, hread⟩ := exists_of_record_eq_ok h (UnitKind.parts .processor) rfl
  simp only [read_seq_iff, read_map_iff, read_required_iff, hsource] at hread
  obtain ⟨_, _, ⟨_, hmemory, rfl⟩, hwriter, rfl⟩ := hread
  have hconfigured := reads_sharedMemory hmemory
  obtain ⟨hprocesses, hrank, hwritten, hmaximum, hname, hwriting⟩ := reads_writer hwriter
  exact .cons ⟨rfl, Exhibit.cell?_lamp hconfigured⟩ <|
    .cons ⟨rfl, Exhibit.cell?_integer hprocesses⟩ <| .cons ⟨rfl, Exhibit.cell?_signed hrank⟩ <|
    .cons ⟨rfl, Exhibit.cell?_progress hwritten hmaximum⟩ <|
    .cons ⟨rfl, Exhibit.cell?_text hname⟩ <| .cons ⟨rfl, Exhibit.cell?_lamp hwriting⟩ .nil

theorem exhibits_of_decoder (kind : UnitKind) {v : Json} {detail : kind.Detail}
    (h : kind.decoder v = .ok detail) : kind.Exhibits (kind.ownField? v) detail := by
  cases kind with
  | receiver => exact exhibits_receiver h
  | processor => exact exhibits_processor h

/-! ### Rows -/

/-- The unit in place `i` of a body. -/
theorem exists_items_of_unit {kind : UnitKind} {body unit : Json} {i : Nat}
    (hunit : kind.endpoint.shape.at? [.field "value", .item i] body = some unit) :
    ∃ items, body.field? ["value"] "value" = some (.array items) ∧ items[i]? = some unit := by
  rw [kind.shape_endpoint] at hunit
  simp only [Shape.at?, List.lookup_cons_self, List.map_cons, List.map_nil] at hunit
  cases hvalue : body.field? ["value"] "value" with
  | none => simp [hvalue] at hunit
  | some value =>
      cases value with
      | array items => exact ⟨items, rfl, by simpa [hvalue, Shape.at?] using hunit⟩
      | _ => simp [hvalue, Shape.at?] at hunit

/-- Its fields are those of the unit. -/
theorem field?_eq_ownField? {kind : UnitKind} {body unit : Json} {i : Nat}
    (hunit : kind.endpoint.shape.at? [.field "value", .item i] body = some unit) :
    kind.field? body i = kind.ownField? unit := by
  obtain ⟨items, hitems, hi⟩ := exists_items_of_unit hunit
  funext part name
  rw [UnitKind.field?, UnitKind.ownField?, kind.shape_endpoint]
  simp [Shape.at?, hitems, hi]

theorem of_units_eq_ok {α : Type} {detail : Decoder α} {body : Json} {units : List (UnitStatus α)}
    (h : StatusResponse.units detail body = .ok units) :
    ∃ items, body.field? ["value"] "value" = some (.array items) ∧
      List.Forall₂ (fun v u => unit detail v = .ok u) items units := by
  obtain ⟨items, hrecord, hunits⟩ := bind_eq_ok_iff.mp h
  obtain ⟨source, hsource, hread⟩ := exists_of_record_eq_ok hrecord ["value"] rfl
  obtain ⟨v, hv, hlist⟩ := read_required_iff.mp hread
  rw [hsource] at hv
  cases v with
  | array elements =>
      obtain rfl := Except.ok.inj ((mapM_anything elements).symm.trans hlist)
      exact ⟨elements, hv, mapM_eq_ok_iff.mp hunits⟩
  | _ => cases hlist

/-- A unit of a body that says that it is connected is in the response, in its place. -/
theorem exists_detail_of_decode {kind : UnitKind} {body : Json} {response : StatusResponse}
    (h : decode kind.endpoint body = .ok response) {i : Nat} {v : Json}
    (hunit : kind.endpoint.shape.at? [.field "value", .item i] body = some v)
    (hconnected : v.SaysConnected) :
    ∃ units detail, response = kind.response units ∧ units[i]? = some (.connected detail) ∧
      kind.decoder v = .ok detail := by
  obtain ⟨items, hitems, hi⟩ := exists_items_of_unit hunit
  obtain ⟨units, hunits, rfl⟩ := decode_kind_eq_ok_iff.mp h
  obtain ⟨elements, helements, hread⟩ := of_units_eq_ok hunits
  obtain rfl := Json.array.inj (Option.some.inj (hitems.symm.trans helements))
  obtain ⟨hlt, rfl⟩ := List.getElem?_eq_some_iff.mp hi
  have hlt' : i < units.length := hread.length_eq ▸ hlt
  have hunit := hread.get hlt hlt'
  rw [List.get_eq_getElem, unit_of_saysConnected hconnected] at hunit
  obtain ⟨detail, hdetail, hu⟩ := exists_of_map_eq_ok hunit
  exact ⟨units, detail, rfl, List.getElem?_eq_some_iff.mpr ⟨hlt', hu.symm⟩, hdetail⟩

/-- The row of a connected unit shows what it reports, column by column. -/
theorem get?_render_row (p : Page) (tableRows : Nat) {kind : UnitKind}
    {units : List (UnitStatus kind.Detail)} {i : Nat} {detail : kind.Detail}
    (h : units[i]? = some (.connected detail)) {c : Column kind.Detail}
    (hc : c ∈ kind.detailColumns) :
    (p.render tableRows (kind.response units)).get? (kind.cellId i c.name) =
      some (c.cell detail) := by
  have hrender : p.render tableRows (kind.response units) =
      p.setUnits kind kind.detailColumns units tableRows := by
    cases kind <;> rfl
  have hi : i < max tableRows units.length :=
    lt_max_of_lt_right (List.getElem?_eq_some_iff.mp h).1
  rw [hrender]
  refine Page.get?_setUnits_row kind.map_name_detailColumns p units tableRows hi ?_
  rw [h]
  exact List.mem_cons_of_mem _ (List.mem_map_of_mem
    (f := fun c => (kind.cellId i c.name, c.cell detail)) hc)

/-- What a connected unit reports is read into the response, and its row shows that. -/
theorem exists_shown_detail {kind : UnitKind} {body : Json} {response : StatusResponse}
    (h : decode kind.endpoint body = .ok response) {i : Nat} {v : Json}
    (hunit : kind.endpoint.shape.at? [.field "value", .item i] body = some v)
    (hconnected : v.SaysConnected) :
    ∃ detail, kind.Exhibits (kind.field? body i) detail ∧
      ∀ (p : Page) (tableRows : Nat), ∀ c ∈ kind.detailColumns,
        (p.render tableRows response).get? (kind.cellId i c.name) = some (c.cell detail) := by
  obtain ⟨units, detail, rfl, hi, hdetail⟩ := exists_detail_of_decode h hunit hconnected
  refine ⟨detail, ?_, fun p tableRows c hc => get?_render_row p tableRows hi hc⟩
  rw [field?_eq_ownField? hunit]
  exact exhibits_of_decoder kind hdetail

/-- After a body with units has been rendered, each column of a row shows its own field of the unit
in the row, if that says that it is connected. -/
theorem columns_show_their_fields (kind : UnitKind) (body : Json) (response : StatusResponse)
    (h : decode kind.endpoint body = .ok response) (p : Page) (tableRows i : Nat) (unit : Json)
    (hunit : kind.endpoint.shape.at? [.field "value", .item i] body = some unit)
    (hconnected : unit.SaysConnected) (column : String) (exhibit : Exhibit)
    (hcolumn : (column, exhibit) ∈ kind.exhibits) :
    ∃ cell, exhibit.cell? (kind.field? body i) = some cell ∧
      (p.render tableRows response).get? (kind.cellId i column) = some cell := by
  obtain ⟨detail, hexhibits, hshown⟩ := exists_shown_detail h hunit hconnected
  obtain ⟨c, hc, rfl, hcell⟩ := hexhibits.exists_column hcolumn
  exact ⟨c.cell detail, hcell, hshown p tableRows c hc⟩

/-- The second of two processors reports the greatest numbers that there are, and the least rank. -/
theorem row_of_extreme_processor :
    let greatest : Json := .number (.count 18446744073709551615)
    let rank : Json := .number (.integer ⟨-9223372036854775808, by decide⟩)
    let writer : Json := .object
      [ ("file_name", .null), ("frames_max", greatest), ("frames_written", .number (.count 7)),
        ("processes", greatest), ("rank", rank), ("writing", .bool false) ]
    let unit : Json := .object
      [ ("connected", .string "true"), ("hdf", writer),
        ("shared_memory", .object [("configured", .array [])]) ]
    let body : Json := .object [("value", .array [.null, unit])]
    let shown (response : StatusResponse) (id : String) : Option Cell :=
      (Page.empty.render 0 response).get? id
    unit.SaysConnected ∧ ∃ response, decode .processors body = .ok response ∧
      shown response "fp2-hdf-written" = some (.text "7 / 18446744073709551615") ∧
      shown response "fp2-hdf-rank" = some (.text "-9223372036854775808") ∧
      shown response "fp2-hdf-file-path" = some (.text "") ∧
      shown response "fp2-shared-mem" = some (.indicator ⟨true, .green, 20⟩) := by
  intro greatest rank writer unit body shown
  have hconnected : unit.SaysConnected := Json.saysConnected_iff.mp rfl
  have hdecode : ∃ response, decode .processors body = .ok response := ⟨_, rfl⟩
  obtain ⟨response, hresponse⟩ := hdecode
  have hrow := columns_show_their_fields .processor body response hresponse .empty 0 1 unit rfl
    hconnected
  refine ⟨hconnected, response, hresponse, ?_, ?_, ?_, ?_⟩
  · obtain ⟨cell, hcell, hget⟩ := hrow "hdf-written" (.progress "hdf" "frames_written" "frames_max")
      (by decide)
    exact hget.trans (hcell.symm.trans rfl)
  · obtain ⟨cell, hcell, hget⟩ := hrow "hdf-rank" (.integer "hdf" "rank") (by decide)
    exact hget.trans (hcell.symm.trans rfl)
  · obtain ⟨cell, hcell, hget⟩ := hrow "hdf-file-path" (.text "hdf" "file_name") (by decide)
    exact hget.trans (hcell.symm.trans rfl)
  · obtain ⟨cell, hcell, hget⟩ := hrow "shared-mem" (.lamp "shared_memory" "configured") (by decide)
    exact hget.trans (hcell.symm.trans rfl)

end StatusResponse

end DetectorDashboard
