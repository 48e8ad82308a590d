import DetectorDashboard.Proofs.Shape

/-! What was read of a record. When the reading of a record succeeds, each of its fields was read
from the value that stands for it, in an object under its name and in an array in its place. -/

namespace DetectorDashboard

namespace Schema

variable {α β : Type}

/-- The values of the fields that were read are those that stand for them. -/
theorem exists_of_record_eq_ok {record : String} {fields : Fields α} {v : Json} {x : α}
    (h : Schema.record record fields v = .ok x) (names : List String)
    (hnames : fields.names = names) :
    ∃ source : Source, (∀ name, source.value? name = v.field? names name) ∧
      fields.read source = .ok x := by
  subst hnames
  cases v with
  | object members =>
      simp only [Schema.record] at h
      split at h
      · cases h
      · exact ⟨.ofMembers members, fun _ => rfl, h⟩
  | array items =>
      obtain ⟨y, hy, hlength⟩ := bind_eq_ok_iff.mp h
      split at hlength
      · cases hlength
      · obtain rfl := Except.ok.inj hlength
        exact ⟨.ofItems record fields.names items, fun _ => (lookup_eq_lookup _ _).symm, hy⟩
  | _ => cases h

/-- A value that is there is read as `x`. -/
def Reads (d : Decoder α) (value? : Option Json) (x : α) : Prop :=
  ∃ v, value? = some v ∧ d v = .ok x

/-- A value that is there is read, unless it is null. -/
def ReadsOptional (d : Decoder α) (value? : Option Json) (x? : Option α) : Prop :=
  (match value? with
    | some v => Fields.orNull d v
    | none => .ok none) = .ok x?

section Fields

variable {source : Source}

theorem read_map_iff {fields : Fields α} {f : α → β} {y : β} :
    (f <$> fields).read source = .ok y ↔ ∃ x, fields.read source = .ok x ∧ f x = y := by
  have hread : (f <$> fields).read source = (fields.read source).map f := rfl
  rw [hread]
  cases fields.read source <;> simp [Except.map]

theorem read_seq_iff {first : Fields (α → β)} {later : Fields α} {y : β} :
    (first <*> later).read source = .ok y ↔
      ∃ f x, first.read source = .ok f ∧ later.read source = .ok x ∧ f x = y := by
  have hread : (first <*> later).read source =
      (do let f ← first.read source; let x ← later.read source; return f x) := rfl
  rw [hread]
  simp only [bind_eq_ok_iff]
  constructor
  · rintro ⟨f, hf, x, hx, hy⟩
    exact ⟨f, x, hf, hx, Except.ok.inj hy⟩
  · rintro ⟨f, x, hf, hx, rfl⟩
    exact ⟨f, hf, x, hx, rfl⟩

theorem read_required_iff {name : String} {d : Decoder α} {x : α} :
    (Fields.required name d).read source = .ok x ↔ Reads d (source.value? name) x := by
  simp only [Fields.required, Reads]
  cases source.value? name <;> simp

theorem read_optional_iff {name : String} {d : Decoder α} {x? : Option α} :
    (Fields.optional name d).read source = .ok x? ↔ ReadsOptional d (source.value? name) x? :=
  Iff.rfl

end Fields

/-- The fields of a record inside a record were read from the values in their places. -/
theorem Reads.exists_source (reserved : List String) (parts : List (String × Shape))
    {shapes : List (String × Shape)} {part : String}
    (hshape : parts.lookup part = some (.record [] shapes)) {record : String} {fields : Fields α}
    (hnames : fields.names = shapes.map (·.1)) {v : Json} {x : α}
    (h : Reads (Schema.record record fields) (v.field? (parts.map (·.1)) part) x) :
    ∃ source : Source,
      (∀ name ∈ shapes.map (·.1), source.value? name =
        (Shape.record reserved parts).at? [.field part, .field name] v) ∧
      fields.read source = .ok x := by
  obtain ⟨w, hw, hread⟩ := h
  obtain ⟨source, hsource, hx⟩ := exists_of_record_eq_ok hread _ hnames
  refine ⟨source, fun name hname => ?_, hx⟩
  obtain ⟨s, hs⟩ := Shape.exists_lookup hname
  simp [hsource, Shape.at?, hshape, hw, hs]

/-! ### Whole numbers -/

theorem integer_eq_ok_iff {description : String} {ofInt? : Int → Option α} {v : Json} {x : α} :
    integer description ofInt? v = .ok x ↔
      ∃ n, v = .number (.integer n) ∧ ofInt? n.value = some x := by
  constructor
  · intro h
    simp only [integer] at h
    split at h
    · rename_i n
      split at h
      · rename_i y hy
        exact ⟨n, rfl, hy.trans (congrArg some (Except.ok.inj h))⟩
      · cases h
    · cases h
  · rintro ⟨n, rfl, hx⟩
    simp only [integer, hx]

theorem uint64_cases {v : Json} {n : UInt64} (h : uint64 v = .ok n) :
    ∃ m : Json.Integer, v = .number (.integer m) ∧ m.value = n.toNat := by
  obtain ⟨m, rfl, hm⟩ := integer_eq_ok_iff.mp h
  obtain ⟨⟨hleast, hbound⟩, hn⟩ := Option.ite_none_right_eq_some.mp hm
  have hlt : m.value.toNat < UInt64.size := by omega
  refine ⟨m, rfl, ?_⟩
  rw [← Option.some.inj hn, UInt64.toNat_ofNat_of_lt' hlt, Int.toNat_of_nonneg hleast]

theorem int64_cases {v : Json} {n : Int64} (h : int64 v = .ok n) :
    ∃ m : Json.Integer, v = .number (.integer m) ∧ m.value = n.toInt := by
  obtain ⟨m, rfl, hm⟩ := integer_eq_ok_iff.mp h
  obtain ⟨⟨hleast, hbound⟩, hn⟩ := Option.ite_none_right_eq_some.mp hm
  refine ⟨m, rfl, ?_⟩
  rw [← Option.some.inj hn,
    Int64.toInt_ofInt_of_le hleast (Int.lt_of_le_of_lt hbound (by decide))]

end Schema

end DetectorDashboard
