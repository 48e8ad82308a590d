import DetectorDashboard.Proofs.Envelope

/-! Lists of units. The values of a list are looked at one after the other, and each on its own: one
that says that it is connected has to describe a unit in full, any other is a unit that is not
connected, whatever it holds. The first that does not describe its unit is the fault of the list. -/

namespace DetectorDashboard

/-! ### Lists that are read one item at a time -/

namespace Schema

theorem bind_eq_error_iff {α β : Type} {x : Except DecodeError α} {f : α → Except DecodeError β}
    {e : DecodeError} :
    (x >>= f) = .error e ↔ x = .error e ∨ ∃ a, x = .ok a ∧ f a = .error e := by
  cases x with
  | error e' => simp [bind, Except.bind]
  | ok a => simp [bind, Except.bind]

variable {α β : Type} {f : α → Except DecodeError β}

theorem mapM_eq_ok_iff {items : List α} {results : List β} :
    items.mapM f = .ok results ↔ List.Forall₂ (fun x y => f x = .ok y) items results := by
  induction items generalizing results with
  | nil =>
      rw [List.mapM_nil, List.forall₂_nil_left_iff]
      exact ⟨fun h => (Except.ok.inj h).symm, fun h => congrArg Except.ok h.symm⟩
  | cons x rest ih =>
      rw [List.mapM_cons, bind_eq_ok_iff, List.forall₂_cons_left_iff]
      constructor
      · rintro ⟨y, hy, hrest⟩
        obtain ⟨ys, hys, hresults⟩ := bind_eq_ok_iff.mp hrest
        exact ⟨y, ys, hy, ih.mp hys, (Except.ok.inj hresults).symm⟩
      · rintro ⟨y, ys, hy, hys, rfl⟩
        exact ⟨y, hy, bind_eq_ok_iff.mpr ⟨ys, ih.mpr hys, rfl⟩⟩

theorem exists_mapM_eq_ok_iff {items : List α} :
    (∃ results, items.mapM f = .ok results) ↔ ∀ x ∈ items, ∃ y, f x = .ok y := by
  induction items with
  | nil => exact iff_of_true ⟨[], rfl⟩ nofun
  | cons x rest ih =>
      rw [List.mapM_cons, List.forall_mem_cons, ← ih]
      constructor
      · rintro ⟨results, h⟩
        obtain ⟨y, hy, hrest⟩ := bind_eq_ok_iff.mp h
        obtain ⟨ys, hys, -⟩ := bind_eq_ok_iff.mp hrest
        exact ⟨⟨y, hy⟩, ys, hys⟩
      · rintro ⟨⟨y, hy⟩, ys, hys⟩
        exact ⟨y :: ys, bind_eq_ok_iff.mpr ⟨y, hy, bind_eq_ok_iff.mpr ⟨ys, hys, rfl⟩⟩⟩

/-- The fault of a list is that of its first faulty item. -/
theorem mapM_eq_error_iff {items : List α} {e : DecodeError} :
    items.mapM f = .error e ↔ ∃ before x after, items = before ++ x :: after ∧
      (∀ y ∈ before, ∃ result, f y = .ok result) ∧ f x = .error e := by
  induction items with
  | nil =>
      refine ⟨fun h => (nomatch h), ?_⟩
      rintro ⟨before, x, after, hitems, -⟩
      exact absurd hitems.symm (List.append_ne_nil_of_right_ne_nil before (List.cons_ne_nil x after))
  | cons x rest ih =>
      rw [List.mapM_cons, bind_eq_error_iff]
      constructor
      · rintro (hx | ⟨y, hy, hrest⟩)
        · exact ⟨[], x, rest, rfl, nofun, hx⟩
        · rcases bind_eq_error_iff.mp hrest with hrest | ⟨ys, -, hpure⟩
          · obtain ⟨before, z, after, rfl, hbefore, hz⟩ := ih.mp hrest
            exact ⟨x :: before, z, after, rfl, List.forall_mem_cons.mpr ⟨⟨y, hy⟩, hbefore⟩, hz⟩
          · cases hpure
      · rintro ⟨before, z, after, hitems, hbefore, hz⟩
        cases before with
        | nil =>
            obtain ⟨rfl, rfl⟩ := List.cons_eq_cons.mp hitems
            exact .inl hz
        | cons y before =>
            obtain ⟨rfl, rfl⟩ := List.cons_eq_cons.mp hitems
            obtain ⟨⟨y', hy⟩, hbefore⟩ := List.forall_mem_cons.mp hbefore
            have hrest := ih.mpr ⟨before, z, after, rfl, hbefore, hz⟩
            exact .inr ⟨y', hy, bind_eq_error_iff.mpr (.inl hrest)⟩

theorem mapM_anything (items : List Json) : items.mapM anything = .ok items :=
  mapM_eq_ok_iff.mpr (List.forall₂_same.mpr fun _ _ => rfl)

/-- The value of the only field of a record, where the object has no other value for it. -/
theorem record_required_of_unique {α : Type} (record : String) {name : String} (d : Decoder α)
    {members : List (String × Json)} {value : Json} {x : α} (hd : d value = .ok x)
    (hvalue : ∀ v, (name, v) ∈ members ↔ v = value) :
    Schema.record record (.required name d) (.object members) = .ok x := by
  have hlookup : Json.lookup name members = some value := by
    have hmem : (name, value) ∈ members := (hvalue value).mpr rfl
    cases hfind : members.find? (·.1 == name) with
    | none => exact absurd (beq_self_eq_true name) (List.find?_eq_none.mp hfind _ hmem)
    | some m =>
        have hname : m.1 = name := eq_of_beq (List.find?_some hfind :)
        have hm : (name, m.2) ∈ members := hname ▸ List.mem_of_find?_eq_some hfind
        rw [Json.lookup, hfind, Option.map_some, (hvalue m.2).mp hm]
  have hfault : (members.findSome? fun m => (Fields.required name d).fault? m.1 m.2) = none := by
    refine List.findSome?_eq_none_iff.mpr fun m hm => ?_
    by_cases hname : m.1 = name
    · have hm' : (name, m.2) ∈ members := hname ▸ hm
      rw [(hvalue m.2).mp hm']
      exact (if_pos hname).trans (Fields.Lawful.faultOf?_eq_none hd)
    · exact if_neg hname
  have hread : (Fields.required name d).read (.ofMembers members) = .ok x := by
    simp only [Fields.required, Source.ofMembers, hlookup, hd]
  simp only [Schema.record, hfault, hread]

end Schema

/-! ### One unit -/

/-- Whether a value says of itself that it is a connected unit. -/
def Json.SaysConnected (v : Json) : Prop :=
  ∃ members flag, v = .object members ∧ Json.lookup "connected" members = some flag ∧
    (flag = .bool true ∨ flag = .string "true")

theorem Flag.isConnected_iff {flag : Json} :
    Flag.isConnected flag = true ↔ flag = .bool true ∨ flag = .string "true" := by
  cases flag <;> simp [Flag.isConnected]

theorem Json.saysConnected_iff {v : Json} :
    (v.member? "connected").any Flag.isConnected = true ↔ v.SaysConnected := by
  constructor
  · intro h
    obtain ⟨flag, hflag, hconnected⟩ := (Option.any_eq_true _ _).mp h
    cases v with
    | object members => exact ⟨members, flag, rfl, hflag, Flag.isConnected_iff.mp hconnected⟩
    | _ => cases hflag
  · rintro ⟨members, flag, rfl, hlookup, hflag⟩
    rw [member?, hlookup]
    exact Flag.isConnected_iff.mpr hflag

namespace StatusResponse

open Schema

variable {α : Type} {detail : Decoder α} {v : Json}

theorem unit_of_saysConnected (h : v.SaysConnected) :
    unit detail v = (detail v).map .connected :=
  if_pos (Json.saysConnected_iff.mpr h)

theorem unit_of_not_saysConnected (h : ¬ v.SaysConnected) :
    unit detail v = .ok .disconnected :=
  if_neg (mt Json.saysConnected_iff.mp h)

/-- A value is a unit unless it says that it is connected and its details cannot be read. -/
theorem exists_unit_iff :
    (∃ u, unit detail v = .ok u) ↔ (v.SaysConnected → ∃ x, detail v = .ok x) := by
  by_cases h : v.SaysConnected
  · rw [unit_of_saysConnected h]
    cases hread : detail v with
    | error e => simp [h, Except.map]
    | ok x => simp [Except.map]
  · exact iff_of_true ⟨_, unit_of_not_saysConnected h⟩ fun hsays => absurd hsays h

theorem unit_eq_error_iff {e : DecodeError} :
    unit detail v = .error e ↔ v.SaysConnected ∧ detail v = .error e := by
  by_cases h : v.SaysConnected
  · rw [unit_of_saysConnected h]
    cases hread : detail v <;> simp [h, Except.map]
  · rw [unit_of_not_saysConnected h]
    exact iff_of_false nofun fun hsays => h hsays.1

/-- What is read as a unit says whether it is connected, and has details just then, those that are
read from the value alone. -/
theorem of_unit_eq_ok {u : UnitStatus α} (h : unit detail v = .ok u) :
    (u.isConnected = true ↔ v.SaysConnected) ∧ (u.detail?.isSome ↔ v.SaysConnected) ∧
      ∀ x, u.detail? = some x → detail v = .ok x := by
  by_cases hsays : v.SaysConnected
  · rw [unit_of_saysConnected hsays] at h
    obtain ⟨y, hy, rfl⟩ := exists_of_map_eq_ok h
    refine ⟨iff_of_true rfl hsays, iff_of_true rfl hsays, fun x hx => ?_⟩
    rw [hy]
    exact congrArg Except.ok (Option.some.inj hx)
  · rw [unit_of_not_saysConnected hsays] at h
    obtain rfl := Except.ok.inj h
    exact ⟨iff_of_false nofun hsays, iff_of_false nofun hsays, fun x hx => nomatch hx⟩

end StatusResponse

/-! ### A list of units -/

namespace UnitKind

open Schema

/-- The decoder of what a connected unit reports about itself. -/
def decoder : (kind : UnitKind) → Decoder kind.Detail
  | .receiver => StatusResponse.receiver
  | .processor => StatusResponse.processor

/-- The response of the endpoint that lists the units of the kind. -/
def response : (kind : UnitKind) → List (UnitStatus kind.Detail) → StatusResponse
  | .receiver, units => .receivers units
  | .processor, units => .processors units

theorem decode_endpoint (kind : UnitKind) (body : Json) :
    StatusResponse.decode kind.endpoint body =
      ((StatusResponse.units kind.decoder body).map kind.response).mapError
        fun cause => ⟨kind.endpoint, cause⟩ := by
  cases kind <;> rfl

end UnitKind

namespace StatusResponse

open Schema

theorem decode_kind_eq_ok_iff {kind : UnitKind} {body : Json} {response : StatusResponse} :
    decode kind.endpoint body = .ok response ↔
      ∃ units, StatusResponse.units kind.decoder body = .ok units ∧
        response = kind.response units := by
  rw [kind.decode_endpoint]
  cases StatusResponse.units kind.decoder body <;> simp [Except.map, Except.mapError, eq_comm]

section

variable {members : List (String × Json)} {items : List Json}
  (hvalue : ∀ v, ("value", v) ∈ members ↔ v = .array items)

include hvalue

theorem units_object {α : Type} (detail : Decoder α) :
    units detail (.object members) = items.mapM (unit detail) := by
  have hlist : list anything (.array items) = .ok items := mapM_anything items
  rw [units, record_required_of_unique "UnitList" (list anything) hlist hvalue]
  rfl

theorem decode_units_eq_ok_iff {kind : UnitKind} {response : StatusResponse} :
    decode kind.endpoint (.object members) = .ok response ↔
      ∃ units, response = kind.response units ∧
        List.Forall₂ (fun v u => unit kind.decoder v = .ok u) items units := by
  simp only [decode_kind_eq_ok_iff, units_object hvalue, mapM_eq_ok_iff, and_comm]

theorem decode_units_eq_error_iff {kind : UnitKind} {error : SchemaError} :
    decode kind.endpoint (.object members) = .error error ↔
      error.endpoint = kind.endpoint ∧ items.mapM (unit kind.decoder) = .error error.cause := by
  rw [kind.decode_endpoint, units_object hvalue]
  obtain ⟨endpoint, cause⟩ := error
  cases items.mapM (unit kind.decoder) with
  | error e => simp [Except.map, Except.mapError, eq_comm]
  | ok units => simp [Except.map, Except.mapError]

end

/-- A list of units is read all or nothing, and each unit on its own: just those that say that they
are connected have to describe themselves, and the first that does not is the fault of the list. -/
theorem units_read_one_by_one (kind : UnitKind) (members : List (String × Json))
    (items : List Json) (hvalue : ∀ v, ("value", v) ∈ members ↔ v = .array items) :
    let answer := decode kind.endpoint (.object members)
    ((∃ response, answer = .ok response) ↔
        ∀ v ∈ items, v.SaysConnected → ∃ detail, kind.decoder v = .ok detail) ∧
      (∀ response, answer = .ok response → ∃ units, response = kind.response units ∧
        units.length = items.length ∧
        ∀ (i : Nat) v u, items[i]? = some v → units[i]? = some u →
          (u.isConnected = true ↔ v.SaysConnected) ∧ (u.detail?.isSome ↔ v.SaysConnected) ∧
            ∀ detail, u.detail? = some detail → kind.decoder v = .ok detail) ∧
      ∀ error, answer = .error error ↔
        error.endpoint = kind.endpoint ∧ ∃ before v after, items = before ++ v :: after ∧
          (∀ u ∈ before, u.SaysConnected → ∃ detail, kind.decoder u = .ok detail) ∧
          v.SaysConnected ∧ kind.decoder v = .error error.cause := by
  intro answer
  refine ⟨?_, fun response h => ?_, fun error => ?_⟩
  · simp only [answer, decode_units_eq_ok_iff hvalue, ← mapM_eq_ok_iff, ← exists_unit_iff,
      ← exists_mapM_eq_ok_iff]
    exact ⟨fun ⟨_, units, _, h⟩ => ⟨units, h⟩, fun ⟨units, h⟩ => ⟨_, units, rfl, h⟩⟩
  · obtain ⟨units, hresponse, hunits⟩ := (decode_units_eq_ok_iff hvalue).mp h
    refine ⟨units, hresponse, hunits.length_eq.symm, fun i v u hv hu => ?_⟩
    obtain ⟨hi, rfl⟩ := List.getElem?_eq_some_iff.mp hv
    obtain ⟨hi', rfl⟩ := List.getElem?_eq_some_iff.mp hu
    exact of_unit_eq_ok (hunits.get hi hi')
  · simp only [answer, decode_units_eq_error_iff hvalue, mapM_eq_error_iff, exists_unit_iff,
      unit_eq_error_iff]

/-- The second processor fails to describe itself; what the first holds does not matter. -/
theorem units_of_incomplete_processor :
    let idle : Json := .object [("connected", .bool false), ("hdf", .null)]
    let incomplete : Json := .object [("connected", .string "true")]
    let body (items : List Json) : Json := .object [("count", .null), ("value", .array items)]
    decode .processors (body [idle, incomplete, incomplete]) =
        .error ⟨.processors, .missingField "shared_memory"⟩ ∧
      ∃ units, decode .processors (body [idle, .null]) = .ok (.processors units) ∧
        units.length = 2 := by
  intro idle incomplete body
  have hvalue (items : List Json) (v : Json) :
      ("value", v) ∈ [("count", .null), ("value", .array items)] ↔ v = .array items := by
    simp
  have hidle : ¬ idle.SaysConnected := by
    rw [← Json.saysConnected_iff]
    decide
  have hnull : ¬ Json.null.SaysConnected := by
    rw [← Json.saysConnected_iff]
    decide
  obtain ⟨-, -, herror⟩ := units_read_one_by_one .processor _ [idle, incomplete, incomplete]
    (hvalue _)
  obtain ⟨hread, hunits, -⟩ := units_read_one_by_one .processor _ [idle, .null] (hvalue _)
  constructor
  · refine (herror _).mpr ⟨rfl, [idle], incomplete, [incomplete], rfl, ?_, ?_, rfl⟩
    · simpa using fun h => absurd h hidle
    · exact Json.saysConnected_iff.mp rfl
  · obtain ⟨response, hresponse⟩ := hread.mpr (by simp [hidle, hnull])
    obtain ⟨units, rfl, hlength, -⟩ := hunits response hresponse
    exact ⟨units, hresponse, hlength⟩

end StatusResponse

end DetectorDashboard
