import DetectorDashboard.Proofs.OpenSchema
import DetectorDashboard.Proofs.UnitColumns

/-! Flags and their lamps. Any value may stand for a flag: the body is read, and the lamp of the
flag shows it, dark for `null`, `false`, every zero and the texts that mean as much, green for all
else. A text is looked at without the blanks at its ends. -/

namespace DetectorDashboard

namespace Json

/-- The values that stand for off. -/
inductive IsOff : Json → Prop
  | null : IsOff .null
  | false : IsOff (.bool false)
  | integer {n : Integer} (h : n.value = 0) : IsOff (.number (.integer n))
  | float {x : Binary64.Finite} (h : x.magnitude.quanta = 0) : IsOff (.number (.float x))
  | text {s : String} (h : s ∈ ["", "0", "false"]) : IsOff (.string s)

/-- A text without the blanks at its ends, or else the value as it is. -/
def trimmed : Json → Json
  | .string s => .string (Text.trim s)
  | v => v

theorem isOff_bool_iff {b : Bool} : (Json.bool b).IsOff ↔ b = false := by
  constructor
  · intro h
    cases h
    rfl
  · rintro rfl
    exact .false

theorem isOff_number_iff {n : Number} : (Json.number n).IsOff ↔ n.isZero = true := by
  cases n with
  | integer n =>
      refine ⟨fun h => ?_, fun h => .integer (of_decide_eq_true h)⟩
      cases h with
      | integer h => exact decide_eq_true h
  | float x =>
      refine ⟨fun h => ?_, fun h => .float (of_decide_eq_true h)⟩
      cases h with
      | float h => exact decide_eq_true h

theorem isOff_string_iff {s : String} : (Json.string s).IsOff ↔ s ∈ ["", "0", "false"] := by
  refine ⟨fun h => ?_, .text⟩
  cases h with
  | text h => exact h

end Json

theorem Flag.isOn_eq_false_iff {v : Json} : Flag.isOn v = false ↔ v.trimmed.IsOff := by
  cases v with
  | null => exact iff_of_true rfl .null
  | bool b => exact Json.isOff_bool_iff.symm
  | number n =>
      have htrimmed : (Json.number n).trimmed = .number n := rfl
      rw [htrimmed, Json.isOff_number_iff, Flag.isOn, Bool.not_eq_false_eq_eq_true]
  | string s =>
      simp only [Json.trimmed, Json.isOff_string_iff, Flag.isOn, decide_eq_false_iff_not, not_not]
  | array items | object members => exact iff_of_false nofun nofun

-- a number too small to be told from zero is read as one
example : (Json.read? "-1e-400").map Flag.isOn = some false := by decide +kernel

/-! ### Places of flags -/

namespace Shape

/-- What has a part in it is there. -/
theorem exists_at?_of_append {s : Shape} (first : List Key) {later : List Key} {v w : Json}
    (h : s.at? (first ++ later) v = some w) : ∃ u, s.at? first v = some u := by
  induction first generalizing s v with
  | nil => exact ⟨v, by simp [at?]⟩
  | cons key first ih =>
      rw [List.cons_append] at h
      -- a name leads on in a record and a number in a list, and nothing else does
      cases s <;> cases key
      case record.field reserved fields name =>
        obtain ⟨t, ht, h⟩ := Option.bind_eq_some_iff.mp h
        obtain ⟨x, hx, h⟩ := Option.bind_eq_some_iff.mp h
        obtain ⟨u, hu⟩ := ih h
        exact ⟨u, by simp [at?, ht, hx, hu]⟩
      case list.item s i =>
        cases v with
        | array items =>
            obtain ⟨x, hx, h⟩ := Option.bind_eq_some_iff.mp h
            obtain ⟨u, hu⟩ := ih h
            exact ⟨u, by simp [at?, hx, hu]⟩
        | _ => cases h
      all_goals cases h

/-- A flag of a record stands in one of its fields. -/
theorem Place.exists_field {reserved : List String} {fields : List (String × Shape)}
    {path : List Key} {c : Json → Json} (h : Place (.record reserved fields) path .flag c) :
    ∃ f ∈ fields, ∃ rest inner, path = .field f.1 :: rest ∧ Place f.2 rest .flag inner := by
  cases h with
  | member _ _ hfield _ h | element _ _ hfield _ h =>
      exact ⟨_, mem_of_lookup hfield, _, _, rfl, h⟩

theorem Place.eq_nil_of_flag {path : List Key} {c : Json → Json} (h : Place .flag path .flag c) :
    path = [] := by
  cases h
  rfl

theorem not_place_plain {path : List Key} {c : Json → Json} : ¬ Place .plain path .flag c :=
  nofun

theorem not_place_parameter {path : List Key} {c : Json → Json} :
    ¬ (Shape.parameter .plain).Place path .flag c := by
  intro h
  obtain ⟨f, hf, _, _, -, hfield⟩ := h.exists_field
  obtain rfl := List.mem_singleton.mp hf
  exact not_place_plain hfield

end Shape

/-- A flag of a unit is a field of one of its parts, and has a lamp. -/
theorem UnitKind.flags_have_lamps (kind : UnitKind) : ∀ f ∈ kind.fields, ∃ shapes,
    f.2 = .record [] shapes ∧ ∀ g ∈ shapes, g.2 = .plain ∨
      g.2 = .flag ∧ ∃ column, (column, .lamp f.1 g.1) ∈ kind.exhibits := by
  cases kind <;> simp [UnitKind.fields, UnitKind.exhibits, -Prod.forall]

open Shape in
theorem UnitKind.exists_lamp_of_place {kind : UnitKind} {path : List Key} {c : Json → Json}
    (h : kind.shape.Place path .flag c) :
    ∃ part name column, path = [.field part, .field name] ∧
      (column, .lamp part name) ∈ kind.exhibits := by
  obtain ⟨f, hf, rest, inner, rfl, hpart⟩ := h.exists_field
  obtain ⟨shapes, hshapes, hfields⟩ := kind.flags_have_lamps f hf
  rw [hshapes] at hpart
  obtain ⟨g, hg, rest, inner, rfl, hname⟩ := hpart.exists_field
  obtain hplain | ⟨hflag, column, hcolumn⟩ := hfields g hg
  · rw [hplain] at hname
    exact absurd hname not_place_plain
  · rw [hflag] at hname
    obtain rfl := hname.eq_nil_of_flag
    exact ⟨f.1, g.1, column, rfl, hcolumn⟩

/-- The lamp that shows the flag in a place of a body. A unit has its lamps where it says that it is
connected. -/
inductive Endpoint.Lamp (body : Json) : Endpoint → List Shape.Key → String → Prop
  | complete :
      Lamp body .detectorStatus [.field "acquisition_complete", .field "value"] CellId.complete
  | unit (kind : UnitKind) (i : Nat) {v : Json} {column part name : String}
      (hunit : kind.endpoint.shape.at? [.field "value", .item i] body = some v)
      (hconnected : v.SaysConnected) (hcolumn : (column, .lamp part name) ∈ kind.exhibits) :
      Lamp body kind.endpoint [.field "value", .item i, .field part, .field name]
        (kind.cellId i column)

namespace Endpoint

open Shape

/-- Whether the unit that a place lies in says that it is connected, if the place lies in a unit. -/
def ConnectedAt (e : Endpoint) (body : Json) (path : List Key) : Prop :=
  ∀ i later v, path = .field "value" :: .item i :: later →
    e.shape.at? [.field "value", .item i] body = some v → v.SaysConnected

variable {path : List Key} {c : Json → Json}

theorem exists_lamp_of_units (kind : UnitKind) (hplace : kind.endpoint.shape.Place path .flag c)
    (v : Json) (hconnected : kind.endpoint.ConnectedAt (c v) path) :
    ∃ id, kind.endpoint.Lamp (c v) path id := by
  have hflag := hplace.at?_eq v
  rw [kind.shape_endpoint] at hplace
  obtain ⟨f, hf, rest, inner, rfl, hlist⟩ := hplace.exists_field
  obtain rfl := List.mem_singleton.mp hf
  cases hlist with
  | item before after hunit =>
      obtain ⟨part, name, column, rfl, hcolumn⟩ := UnitKind.exists_lamp_of_place hunit
      obtain ⟨unit, hunit⟩ :=
        exists_at?_of_append [.field "value", .item before.length] hflag
      exact ⟨_, .unit kind before.length hunit (hconnected _ _ unit rfl hunit) hcolumn⟩

/-- Every flag of a body has a lamp, if the unit that it belongs to says that it is connected. -/
theorem exists_lamp {e : Endpoint} (hplace : e.shape.Place path .flag c) (v : Json)
    (hconnected : e.ConnectedAt (c v) path) : ∃ id, e.Lamp (c v) path id := by
  cases e with
  | apiVersion | adapters =>
      obtain ⟨f, hf, _, _, -, hfield⟩ := hplace.exists_field
      obtain rfl := List.mem_singleton.mp hf
      exact absurd hfield not_place_plain
  | detectorConfig =>
      obtain ⟨f, hf, _, _, -, hfield⟩ := hplace.exists_field
      simp only [List.mem_cons, List.not_mem_nil, or_false] at hf
      obtain rfl | rfl | rfl := hf <;> exact absurd hfield not_place_parameter
  | detectorStatus =>
      obtain ⟨f, hf, _, _, rfl, hfield⟩ := hplace.exists_field
      simp only [List.mem_cons, List.not_mem_nil, or_false] at hf
      obtain rfl | rfl := hf
      · obtain ⟨g, hg, _, _, rfl, hvalue⟩ := hfield.exists_field
        obtain rfl := List.mem_singleton.mp hg
        obtain rfl := hvalue.eq_nil_of_flag
        exact ⟨_, .complete⟩
      · exact absurd hfield not_place_parameter
  | receivers => exact exists_lamp_of_units .receiver hplace v hconnected
  | processors => exact exists_lamp_of_units .processor hplace v hconnected

end Endpoint

namespace StatusResponse

open Schema

/-- Whether the acquisition is complete is read of its parameter. -/
theorem exists_complete_of_decode {body : Json} {response : StatusResponse}
    (h : decode .detectorStatus body = .ok response) :
    ∃ status, response = .detectorStatus status ∧
      Reads Flag.decoder (Endpoint.shape .detectorStatus |>.at?
        [.field "acquisition_complete", .field "value"] body) status.complete := by
  obtain ⟨s, hs, rfl⟩ := exists_of_map_eq_ok (decode_eq_ok_iff.mp h)
  obtain ⟨source, hsource, hread⟩ :=
    exists_of_record_eq_ok hs ["acquisition_complete", "state"] rfl
  simp only [read_seq_iff, read_map_iff, read_required_iff, hsource] at hread
  obtain ⟨_, _, ⟨_, hcomplete, rfl⟩, _, rfl⟩ := hread
  obtain ⟨param, hparam, hread⟩ := hcomplete.exists_source []
    [("acquisition_complete", .parameter .flag), ("state", .parameter .plain)] rfl rfl
  rw [read_required_iff, hparam _ List.mem_cons_self] at hread
  exact ⟨_, rfl, hread⟩

theorem get?_render_complete (p : Page) (tableRows : Nat) (status : DetectorStatus) :
    (p.render tableRows (.detectorStatus status)).get? CellId.complete =
      some (.indicator (.healthy status.complete)) := by
  have hne : CellId.state ≠ CellId.complete := by decide
  simp only [Page.render, Page.setAll, List.foldl_cons, List.foldl_nil, Page.get?_set, if_neg hne,
    if_pos]

/-- Each lamp shows its flag. -/
theorem get?_render_lamp {e : Endpoint} {body : Json} {response : StatusResponse}
    (h : decode e body = .ok response) {path : List Shape.Key} {id : String}
    (hlamp : e.Lamp body path id) {v : Json} (hflag : e.shape.at? path body = some v) (p : Page)
    (tableRows : Nat) :
    (p.render tableRows response).get? id = some (.indicator ⟨Flag.isOn v, .green, 20⟩) := by
  cases hlamp with
  | complete =>
      obtain ⟨status, rfl, w, hw, hcomplete⟩ := exists_complete_of_decode h
      obtain rfl := Option.some.inj (hflag.symm.trans hw)
      rw [get?_render_complete, ← Except.ok.inj hcomplete]
      rfl
  | @unit kind i _ column part name hunit hconnected hcolumn =>
      obtain ⟨detail, hexhibits, hshown⟩ := exists_shown_detail h hunit hconnected
      obtain ⟨c, hc, rfl, hcell⟩ := hexhibits.exists_column hcolumn
      rw [hshown p tableRows c hc, ← hcell, Exhibit.cell?, UnitKind.field?, hflag]
      rfl

/-- Another value for a flag does not keep a body from being read. -/
theorem exists_decode_of_flag {e : Endpoint} {path : List Shape.Key} {c : Json → Json}
    (hplace : e.shape.Place path .flag c) {w : Json} {response : StatusResponse}
    (h : decode e (c w) = .ok response) (v : Json) :
    ∃ response', decode e (c v) = .ok response' := by
  have hchange : Shape.Change False .flag w v := .flag not_false w v
  have hagree := tolerates_decoder e _ _ (.intro hplace hchange)
  rw [decode_eq_ok_iff.mp h] at hagree
  cases hread : decoder e (c v) with
  | error error =>
      rw [hread] at hagree
      cases hagree
  | ok response' => exact ⟨response', decode_eq_ok_iff.mpr hread⟩

/-- Any value may stand for a flag. The flag has a lamp, which is dark just if the value, without
the blanks at its ends if it is a text, is one of those that stand for off; else it is green. -/
theorem lamp_dark_iff_off (e : Endpoint) (path : List Shape.Key) (c : Json → Json)
    (hplace : e.shape.Place path .flag c) (w : Json)
    (hvalid : ∃ response, decode e (c w) = .ok response) (v : Json)
    (hconnected : e.ConnectedAt (c v) path) :
    ∃ response, decode e (c v) = .ok response ∧ (∃ id, e.Lamp (c v) path id) ∧
      ∀ id, e.Lamp (c v) path id → ∀ (p : Page) (tableRows : Nat), ∃ on,
        (p.render tableRows response).get? id = some (.indicator ⟨on, .green, 20⟩) ∧
          (on = false ↔ v.trimmed.IsOff) ∧ (v.trimmed = v → (on = false ↔ v.IsOff)) := by
  obtain ⟨valid, hvalid⟩ := hvalid
  obtain ⟨response, hresponse⟩ := exists_decode_of_flag hplace hvalid v
  refine ⟨response, hresponse, Endpoint.exists_lamp hplace v hconnected, ?_⟩
  intro id hlamp p tableRows
  refine ⟨Flag.isOn v, ?_, Flag.isOn_eq_false_iff, fun htrimmed => ?_⟩
  · exact get?_render_lamp hresponse hlamp (hplace.at?_eq v) p tableRows
  · rw [Flag.isOn_eq_false_iff, htrimmed]

/-- A negative zero says of a processor that it does not write. -/
theorem lamp_of_negative_zero :
    let count : Json := .number (.count 1)
    let zero : Json := .number (.float ⟨true, 0, Binary64.limit_pos, Nat.dvd_zero _⟩)
    let counts : List (String × Json) :=
      [("frames_max", count), ("frames_written", count), ("processes", count), ("rank", count)]
    let unit (writing : Json) : Json := .object
      [ ("connected", .bool true), ("hdf", .object (counts ++ [("writing", writing)])),
        ("shared_memory", .object [("configured", count)]) ]
    let body (writing : Json) : Json := .object [("value", .array [unit writing])]
    (∃ response, decode .processors (body (.bool true)) = .ok response) ∧
      ∃ response, decode .processors (body zero) = .ok response ∧
        (Page.empty.render 4 response).get? "fp1-writing" =
          some (.indicator ⟨false, .green, 20⟩) := by
  intro count zero counts unit body
  have hplace : (Endpoint.shape .processors).Place
      [.field "value", .item 0, .field "hdf", .field "writing"] .flag body :=
    .member [] [] rfl nofun (.item [] [] (.member [("connected", .bool true)] [("shared_memory", _)]
      rfl (by decide) (.member counts [] rfl (by decide) (.here _))))
  have hvalid : ∃ response, decode .processors (body (.bool true)) = .ok response := ⟨_, rfl⟩
  have hsays : (unit zero).SaysConnected := Json.saysConnected_iff.mp rfl
  have hconnected : Endpoint.ConnectedAt .processors (body zero)
      [.field "value", .item 0, .field "hdf", .field "writing"] := by
    intro i later v hpath hv
    cases hpath
    obtain rfl := Option.some.inj hv
    exact hsays
  obtain ⟨response, hresponse, -, hlamps⟩ :=
    lamp_dark_iff_off .processors _ body hplace (.bool true) hvalid zero hconnected
  have hcolumn : ("writing", .lamp "hdf" "writing") ∈ UnitKind.exhibits .processor := by decide
  have hlamp : Endpoint.Lamp (body zero) .processors _ "fp1-writing" :=
    .unit .processor 0 (v := unit zero) rfl hsays hcolumn
  obtain ⟨on, hshown, hoff, -⟩ := hlamps _ hlamp .empty 4
  obtain rfl := hoff.mpr (.float rfl)
  exact ⟨hvalid, response, hresponse, hshown⟩

/-- A text of blanks leaves the lamp dark, though it is not among the values that stand for off. -/
theorem blank_text_is_off :
    let body (v : Json) : Json := .object [("acquisition_complete", .object [("value", v)])]
    let blank : Json := .string " "
    (Endpoint.shape .detectorStatus).Place [.field "acquisition_complete", .field "value"] .flag
        body ∧
      (∃ response, decode .detectorStatus (body (.bool true)) = .ok response) ∧
      (∃ response, decode .detectorStatus (body blank) = .ok response ∧
        (Page.empty.render 4 response).get? CellId.complete =
          some (.indicator ⟨false, .green, 20⟩)) ∧
      ¬ blank.IsOff := by
  intro body blank
  refine ⟨?_, ⟨_, rfl⟩, ⟨_, rfl, get?_render_complete .empty 4 ⟨false, none⟩⟩, ?_⟩
  · exact .member [] [] rfl nofun (.member [] [] rfl nofun (.here _))
  · rw [Json.isOff_string_iff]
    decide

end StatusResponse

end DetectorDashboard
