import DetectorDashboard.Proofs.UnitDecoding

/-! The shape of a value: how it is taken apart when it is read, and what stands where inside it.
The fields of a record are found by their names in an object and by their places in an array. Each
endpoint answers with values of one shape, which says where the objects are that are read by their
fields, and where the flags are. -/

namespace DetectorDashboard

/-- How a value is read: as it stands, as a flag, by its fields, or item by item. -/
inductive Shape
  | plain
  | flag
  /-- The fields are listed in the order of their declaration. A member under a reserved name is no
  field, but it may decide whether the fields are read. -/
  | record (reserved : List String) (fields : List (String × Shape))
  | list (item : Shape)

/-! ### The members of objects -/

namespace Json

theorem findSome?_insert {β : Type} {f : String × Json → Option β} {key : String}
    (h : ∀ v, f (key, v) = none) (value : Json) (members : List (String × Json)) :
    (insert key value members).findSome? f = members.findSome? f := by
  induction members with
  | nil => simp [insert, h]
  | cons m rest ih =>
      obtain ⟨k, v⟩ := m
      rw [insert]
      split
      · rw [List.findSome?_cons, h]
      split
      · rename_i heq
        subst heq
        simp only [List.findSome?_cons, h]
      · rw [List.findSome?_cons, List.findSome?_cons, ih]

theorem lookup_eq_findSome? (name : String) (members : List (String × Json)) :
    lookup name members = members.findSome? fun m => if m.1 = name then some m.2 else none := by
  induction members with
  | nil => rfl
  | cons m rest ih =>
      rw [lookup, List.find?_cons, List.findSome?_cons, ← ih]
      by_cases hname : m.1 = name
      · simp [hname]
      · rw [beq_false_of_ne hname, if_neg hname]
        rfl

theorem lookup_insert_of_ne {name key : String} (h : key ≠ name) (value : Json)
    (members : List (String × Json)) :
    lookup name (insert key value members) = lookup name members := by
  rw [lookup_eq_findSome?, lookup_eq_findSome?, findSome?_insert fun _ => if_neg h]

theorem lookup_append_cons {name : String} (before after : List (String × Json)) (key : String)
    (value : Json) (hfirst : key ∉ before.map (·.1)) :
    lookup name (before ++ (key, value) :: after) =
      if key = name then some value else lookup name (before ++ after) := by
  simp only [lookup_eq_findSome?, List.findSome?_append, List.findSome?_cons]
  by_cases hname : key = name
  · have hbefore : before.findSome? (fun m => if m.1 = name then some m.2 else none) = none := by
      rw [List.findSome?_eq_none_iff]
      intro m hm
      refine if_neg fun heq => hfirst ?_
      rw [hname, ← heq]
      exact List.mem_map_of_mem (f := (·.1)) hm
    rw [hbefore, if_pos hname, if_pos hname, Option.none_or]
  · rw [if_neg hname, if_neg hname]

/-- The value for a field, among fields of the names given. -/
def field? (names : List String) (name : String) : Json → Option Json
  | .object members => lookup name members
  | .array items => lookup name (names.zip items)
  | _ => none

end Json

/-! ### Places in a value -/

namespace Shape

inductive Key
  | field (name : String)
  | item (i : Nat)

/-- What stands in a place. -/
def at? : Shape → List Key → Json → Option Json
  | _, [], v => some v
  | .record _ fields, .field name :: path, v => do
      let s ← fields.lookup name
      let w ← v.field? (fields.map (·.1)) name
      s.at? path w
  | .list s, .item i :: path, .array items => do
      let w ← items[i]?
      s.at? path w
  | _, _ :: _, _ => none

/-- Where a part stands in a value, and what stands around it. -/
inductive Place : Shape → List Key → Shape → (Json → Json) → Prop
  | here (s : Shape) : Place s [] s id
  | member {reserved : List String} {fields : List (String × Shape)} {name : String}
      {s t : Shape} {path : List Key} {c : Json → Json} (before after : List (String × Json))
      (hfield : fields.lookup name = some s) (hfirst : name ∉ before.map (·.1))
      (h : Place s path t c) :
      Place (.record reserved fields) (.field name :: path) t
        fun v => .object (before ++ (name, c v) :: after)
  | element {reserved : List String} {fields : List (String × Shape)} {name : String}
      {s t : Shape} {path : List Key} {c : Json → Json} (before after : List Json)
      (hfield : fields.lookup name = some s)
      (hplace : (fields.map (·.1)).idxOf name = before.length) (h : Place s path t c) :
      Place (.record reserved fields) (.field name :: path) t
        fun v => .array (before ++ c v :: after)
  | item {s t : Shape} {path : List Key} {c : Json → Json} (before after : List Json)
      (h : Place s path t c) :
      Place (.list s) (.item before.length :: path) t fun v => .array (before ++ c v :: after)

theorem mem_of_lookup {fields : List (String × Shape)} {name : String} {s : Shape}
    (h : fields.lookup name = some s) : (name, s) ∈ fields := by
  obtain ⟨before, after, rfl, -⟩ := List.lookup_eq_some_iff.mp h
  exact List.mem_append_right _ List.mem_cons_self

theorem exists_lookup {fields : List (String × Shape)} {name : String}
    (h : name ∈ fields.map (·.1)) : ∃ s, fields.lookup name = some s := by
  cases hlookup : fields.lookup name with
  | some s => exact ⟨s, rfl⟩
  | none =>
      obtain ⟨m, hm, rfl⟩ := List.mem_map.mp h
      exact absurd (List.lookup_eq_none_iff.mp hlookup m hm) (by simp)

/-- The elements of an array, named by their places, around one of them. -/
theorem exists_zip_eq {fields : List (String × Shape)} {name : String} {s : Shape}
    (hfield : fields.lookup name = some s) {before : List Json}
    (hplace : (fields.map (·.1)).idxOf name = before.length) (after : List Json) :
    ∃ first rest : List (String × Json), name ∉ first.map (·.1) ∧
      ∀ v, (fields.map (·.1)).zip (before ++ v :: after) = first ++ (name, v) :: rest := by
  obtain ⟨earlier, later, rfl, hearlier⟩ := List.lookup_eq_some_iff.mp hfield
  have hnew : name ∉ earlier.map (·.1) := by
    intro hin
    obtain ⟨p, hp, rfl⟩ := List.mem_map.mp hin
    exact absurd (hearlier p hp) (by simp)
  have hlength : (earlier.map (·.1)).length = before.length := by
    rw [← hplace, List.map_append, List.idxOf_append_of_notMem hnew]
    simp
  refine ⟨(earlier.map (·.1)).zip before, (later.map (·.1)).zip after, ?_, fun v => ?_⟩
  · rwa [List.map_fst_zip (Nat.le_of_eq hlength)]
  · rw [List.map_append, List.map_cons, List.zip_append hlength, List.zip_cons_cons]

theorem Place.at?_eq {s t : Shape} {path : List Key} {c : Json → Json} (h : s.Place path t c)
    (v : Json) : s.at? path (c v) = some v := by
  induction h with
  | here => rfl
  | member before after hfield hfirst h ih =>
      simp only [at?, hfield, Json.field?, Json.lookup_append_cons _ _ _ _ hfirst, if_pos]
      exact ih
  | element before after hfield hplace h ih =>
      obtain ⟨first, rest, hfirst, hzip⟩ := exists_zip_eq hfield hplace after
      simp only [at?, hfield, Json.field?, hzip, Json.lookup_append_cons _ _ _ _ hfirst, if_pos]
      exact ih
  | item before after h ih =>
      simp only [at?, List.getElem?_append_right (Nat.le_refl _), Nat.sub_self,
        List.getElem?_cons_zero]
      exact ih

end Shape

/-! ### The shapes of the responses -/

def Shape.parameter (s : Shape) : Shape :=
  .record [] [("value", s)]

namespace UnitKind

/-- What a unit has to describe if it says that it is connected. -/
def fields : UnitKind → List (String × Shape)
  | .receiver =>
    [ ("status", .record []
        [ ("buffer_manager_configured", .flag), ("rx_thread_configured", .flag),
          ("decoder_configured", .flag), ("ipc_configured", .flag),
          ("configuration_complete", .flag) ]),
      ("buffers", .record [] [("empty", .plain)]),
      ("frames", .record []
        [("received", .plain), ("timedout", .plain), ("released", .plain)]) ]
  | .processor =>
    [ ("shared_memory", .record [] [("configured", .flag)]),
      ("hdf", .record []
        [ ("processes", .plain), ("rank", .plain), ("frames_written", .plain),
          ("frames_max", .plain), ("file_name", .plain), ("writing", .flag) ]) ]

def shape (kind : UnitKind) : Shape :=
  .record ["connected"] kind.fields

end UnitKind

def Endpoint.shape : Endpoint → Shape
  | .apiVersion => .record [] [("api", .plain)]
  | .adapters => .record [] [("adapters", .plain)]
  | .detectorConfig =>
    .record []
      [ ("count_time", .parameter .plain), ("frame_time", .parameter .plain),
        ("nimages", .parameter .plain) ]
  | .detectorStatus =>
    .record [] [("acquisition_complete", .parameter .flag), ("state", .parameter .plain)]
  | .receivers => .record [] [("value", .list (UnitKind.shape .receiver))]
  | .processors => .record [] [("value", .list (UnitKind.shape .processor))]

theorem UnitKind.shape_endpoint (kind : UnitKind) :
    kind.endpoint.shape = .record [] [("value", .list kind.shape)] := by
  cases kind <;> rfl

end DetectorDashboard
