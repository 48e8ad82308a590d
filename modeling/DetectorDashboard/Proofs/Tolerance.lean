import DetectorDashboard.Proofs.Shape

/-! What readings tolerate. A value may be changed without consequence at many places inside it. A
member that no field has the name of may be put into any record, and nothing comes of it; and a flag
may be any value, so that another one in its place is read as well. What a decoder makes of the
value follows from what it makes of its parts. -/

namespace DetectorDashboard

namespace Shape

/-- A member more in a record, or, unless the changes are strict, another value for a flag. -/
inductive Change (strict : Prop) : Shape → Json → Json → Prop
  | member {reserved : List String} {fields : List (String × Shape)}
      (members : List (String × Json)) (key : String) (value : Json) (hreserved : key ∉ reserved)
      (hfields : key ∉ fields.map (·.1)) :
      Change strict (.record reserved fields) (.object members)
        (.object (Json.insert key value members))
  | flag (hlax : ¬ strict) (v w : Json) : Change strict .flag v w

/-- A change at some place. -/
def Alters (strict : Prop) (s : Shape) (v w : Json) : Prop :=
  ∃ path t c x y, s.Place path t c ∧ t.Change strict x y ∧ v = c x ∧ w = c y

theorem Alters.intro {strict : Prop} {s t : Shape} {path : List Key} {c : Json → Json} {x y : Json}
    (hplace : s.Place path t c) (hchange : t.Change strict x y) : s.Alters strict (c x) (c y) :=
  ⟨path, t, c, x, y, hplace, hchange, rfl, rfl⟩

theorem Alters.ne_null {strict : Prop} {s : Shape} {v w : Json} (h : s.Alters strict v w)
    (hs : s ≠ .flag) : v ≠ .null ∧ w ≠ .null := by
  obtain ⟨path, t, c, x, y, hplace, hchange, rfl, rfl⟩ := h
  cases hplace with
  | here =>
      cases hchange with
      | member => exact ⟨nofun, nofun⟩
      | flag => exact absurd rfl hs
  | member | element | item => exact ⟨nofun, nofun⟩

end Shape

namespace Schema

/-! ### Readings that agree -/

/-- Two readings fail alike, or both succeed, with related results. -/
inductive Agree {α : Type} (R : α → α → Prop) :
    Except DecodeError α → Except DecodeError α → Prop
  | ok {x y : α} (h : R x y) : Agree R (.ok x) (.ok y)
  | error (e : DecodeError) : Agree R (.error e) (.error e)

/-- Equal, as far as that is asked. -/
def Same (strict : Prop) {α : Type} (x y : α) : Prop :=
  strict → x = y

namespace Agree

variable {α β : Type} {R : α → α → Prop} {Q : β → β → Prop} {r r' : Except DecodeError α}

theorem refl (hR : ∀ x, R x x) (r : Except DecodeError α) : Agree R r r := by
  cases r with
  | ok x => exact .ok (hR x)
  | error e => exact .error e

theorem bind (h : Agree R r r') {f g : α → Except DecodeError β}
    (hfg : ∀ x y, R x y → Agree Q (f x) (g y)) : Agree Q (r >>= f) (r' >>= g) := by
  cases h with
  | ok h => exact hfg _ _ h
  | error e => exact .error e

theorem map (h : Agree R r r') {f : α → β} (hf : ∀ x y, R x y → Q (f x) (f y)) :
    Agree Q (r.map f) (r'.map f) := by
  cases h with
  | ok h => exact .ok (hf _ _ h)
  | error e => exact .error e

theorem eq {strict : Prop} (h : Agree (Same strict) r r') (hstrict : strict) : r = r' := by
  cases h with
  | ok h => rw [h hstrict]
  | error e => rfl

end Agree

/-- What a decoder makes of a value, as far as `R` can tell, is the same after a change to it. -/
def Decoder.Tolerates {α : Type} (strict : Prop) (R : α → α → Prop) (d : Decoder α) (s : Shape) :
    Prop :=
  ∀ v w, s.Alters strict v w → Agree R (d v) (d w)

end Schema

namespace Shape

/-- A value for a field is what it was, up to a change. -/
def Kept (strict : Prop) (s : Shape) (v? w? : Option Json) : Prop :=
  v? = w? ∨ ∃ v w, v? = some v ∧ w? = some w ∧ s.Alters strict v w

end Shape

namespace Schema

/-- What is made of the fields of a record, as far as `R` can tell, is the same after changes to
their values, and no other member matters. -/
structure Fields.Tolerates {α : Type} (strict : Prop) (R : α → α → Prop) (fields : Fields α)
    (shapes : List (String × Shape)) : Prop where
  names_eq : fields.names = shapes.map (·.1)
  fault?_eq_none : ∀ key v, key ∉ shapes.map (·.1) → fields.fault? key v = none
  fault?_congr : ∀ key v w, (∀ s, (key, s) ∈ shapes → s.Alters strict v w) →
    fields.fault? key v = fields.fault? key w
  read_congr : ∀ source source' : Source, source.missing = source'.missing →
    (∀ name s, (name, s) ∈ shapes →
      s.Kept strict (source.value? name) (source'.value? name)) →
    Agree R (fields.read source) (fields.read source')

variable {α β : Type} {strict : Prop} {R : α → α → Prop}

theorem Fields.faultOf?_congr {d : Decoder α} {v w : Json} (h : Agree R (d v) (d w)) :
    faultOf? d v = faultOf? d w := by
  simp only [faultOf?]
  generalize d v = r, d w = r' at h
  cases h <;> rfl

theorem Fields.orNull_of_ne {d : Decoder α} {v : Json} (h : v ≠ .null) :
    orNull d v = (d v).map some := by
  cases v with
  | null => exact absurd rfl h
  | _ => rfl

namespace Fields.Tolerates

theorem required (hR : ∀ x, R x x) {d : Decoder α} {s : Shape} (h : d.Tolerates strict R s)
    (name : String) : (Fields.required name d).Tolerates strict R [(name, s)] where
  names_eq := rfl
  fault?_eq_none key v hkey := if_neg fun heq => hkey (by simp [heq])
  fault?_congr key v w halters := by
    simp only [Fields.required]
    split
    · rename_i heq
      exact faultOf?_congr (h v w (halters s (by simp [heq])))
    · rfl
  read_congr source source' hmissing hkept := by
    rcases hkept name s List.mem_cons_self with heq | ⟨v, w, hv, hw, halters⟩
    · simp only [Fields.required, heq, hmissing]
      exact .refl hR _
    · simp only [Fields.required, hv, hw]
      exact h v w halters

theorem optional {d : Decoder α} {s : Shape} (h : d.Tolerates strict (Same strict) s)
    (hs : s ≠ .flag) (name : String) :
    (Fields.optional name d).Tolerates strict (Same strict) [(name, s)] := by
  -- no change takes a value to null or from it
  have hnull (v w : Json) (halters : s.Alters strict v w) :
      Agree (Same strict) (orNull d v) (orNull d w) := by
    obtain ⟨hv, hw⟩ := halters.ne_null hs
    rw [orNull_of_ne hv, orNull_of_ne hw]
    exact (h v w halters).map fun x y hxy hstrict => congrArg some (hxy hstrict)
  constructor
  case names_eq => rfl
  case fault?_eq_none => exact fun key v hkey => if_neg fun heq => hkey (by simp [heq])
  case fault?_congr =>
    intro key v w halters
    simp only [Fields.optional]
    split
    · rename_i heq
      exact faultOf?_congr (hnull v w (halters s (by simp [heq])))
    · rfl
  case read_congr =>
    intro source source' hmissing hkept
    rcases hkept name s List.mem_cons_self with heq | ⟨v, w, hv, hw, halters⟩
    · simp only [Fields.optional, heq]
      exact .refl (fun _ _ => rfl) _
    · simp only [Fields.optional, hv, hw]
      exact hnull v w halters

theorem map {fields : Fields α} {shapes : List (String × Shape)}
    (h : fields.Tolerates strict (Same strict) shapes) (f : α → β) :
    (f <$> fields).Tolerates strict (Same strict) shapes where
  names_eq := h.names_eq
  fault?_eq_none := h.fault?_eq_none
  fault?_congr := h.fault?_congr
  read_congr source source' hmissing hkept :=
    (h.read_congr source source' hmissing hkept).map fun _ _ hxy hstrict =>
      congrArg f (hxy hstrict)

theorem seq {first : Fields (α → β)} {later : Fields α} {shapes shapes' : List (String × Shape)}
    (h : first.Tolerates strict (Same strict) shapes)
    (h' : later.Tolerates strict (Same strict) shapes') :
    (first <*> later).Tolerates strict (Same strict) (shapes ++ shapes') := by
  have hnames : (first <*> later).names = first.names ++ later.names := rfl
  have hfault (key : String) (v : Json) :
      (first <*> later).fault? key v = (first.fault? key v <|> later.fault? key v) := rfl
  constructor
  case names_eq => rw [hnames, h.names_eq, h'.names_eq, List.map_append]
  case fault?_eq_none =>
    intro key v hkey
    rw [List.map_append, List.mem_append, not_or] at hkey
    rw [hfault, h.fault?_eq_none key v hkey.1, h'.fault?_eq_none key v hkey.2]
    rfl
  case fault?_congr =>
    intro key v w halters
    rw [hfault, hfault,
      h.fault?_congr key v w fun s hs => halters s (List.mem_append_left _ hs),
      h'.fault?_congr key v w fun s hs => halters s (List.mem_append_right _ hs)]
  case read_congr =>
    intro source source' hmissing hkept
    have hfirst := h.read_congr source source' hmissing fun name s hfield =>
      hkept name s (List.mem_append_left _ hfield)
    have hlater := h'.read_congr source source' hmissing fun name s hfield =>
      hkept name s (List.mem_append_right _ hfield)
    refine hfirst.bind fun f g hfg => hlater.bind fun x y hxy => .ok fun hstrict => ?_
    rw [hfg hstrict, hxy hstrict]

end Fields.Tolerates

/-! ### Records -/

section Record

variable {fields : Fields α} {shapes : List (String × Shape)}
  (h : fields.Tolerates strict R shapes) (hnodup : (shapes.map (·.1)).Nodup)

include hnodup in
theorem shape_unique {name : String} {s t : Shape} (hs : (name, s) ∈ shapes)
    (ht : (name, t) ∈ shapes) : s = t :=
  congrArg Prod.snd (List.inj_on_of_nodup_map hnodup hs ht rfl)

include hnodup in
/-- Of the values for the fields only the one that was changed is another. -/
theorem kept_of_lookup {name : String} {s : Shape} (hfield : (name, s) ∈ shapes) {v w : Json}
    (halters : s.Alters strict v w) {before : List (String × Json)}
    (hfirst : name ∉ before.map (·.1)) (after : List (String × Json)) (key : String) (t : Shape)
    (ht : (key, t) ∈ shapes) :
    t.Kept strict (Json.lookup key (before ++ (name, v) :: after))
      (Json.lookup key (before ++ (name, w) :: after)) := by
  rw [Json.lookup_append_cons _ _ _ _ hfirst, Json.lookup_append_cons _ _ _ _ hfirst]
  by_cases hkey : name = key
  · subst hkey
    rw [if_pos rfl, if_pos rfl]
    exact .inr ⟨v, w, rfl, rfl, shape_unique hnodup ht hfield ▸ halters⟩
  · rw [if_neg hkey, if_neg hkey]
    exact .inl rfl

include h

theorem record_object_agree (record : String) {members members' : List (String × Json)}
    (hfault : (members.findSome? fun m => fields.fault? m.1 m.2) =
      members'.findSome? fun m => fields.fault? m.1 m.2)
    (hkept : ∀ name s, (name, s) ∈ shapes →
      s.Kept strict (Json.lookup name members) (Json.lookup name members')) :
    Agree R (Schema.record record fields (.object members))
      (Schema.record record fields (.object members')) := by
  simp only [Schema.record, hfault]
  split
  · exact .error _
  · exact h.read_congr _ _ rfl hkept

theorem record_array_agree (record : String) {items items' : List Json}
    (hlength : items.length = items'.length)
    (hkept : ∀ name s, (name, s) ∈ shapes →
      s.Kept strict (Json.lookup name ((shapes.map (·.1)).zip items))
        (Json.lookup name ((shapes.map (·.1)).zip items'))) :
    Agree R (Schema.record record fields (.array items))
      (Schema.record record fields (.array items')) := by
  have hread := h.read_congr (.ofItems record fields.names items)
    (.ofItems record fields.names items') rfl fun name s hfield => by
      simp only [Source.ofItems, ← lookup_eq_lookup, h.names_eq]
      exact hkept name s hfield
  simp only [Schema.record, hlength]
  refine hread.bind fun x y hxy => ?_
  split
  · exact .error _
  · exact .ok hxy

include hnodup

/-- A record tolerates changes to its fields, and a member beside them. -/
theorem Fields.Tolerates.record (record : String) (reserved : List String) :
    (Schema.record record fields).Tolerates strict R (.record reserved shapes) := by
  rintro _ _ ⟨path, t, c, x, y, hplace, hchange, rfl, rfl⟩
  -- a change of the record is a new member of its own, or lies in the value for one of its fields
  cases hplace with
  | here =>
      cases hchange with
      | member members key value _ hkey =>
          refine record_object_agree h record ?_ fun name s hfield => .inl ?_
          · exact (Json.findSome?_insert (fun v => h.fault?_eq_none key v hkey) value members).symm
          · refine (Json.lookup_insert_of_ne (fun heq => hkey ?_) value members).symm
            exact heq ▸ List.mem_map_of_mem (f := (·.1)) hfield
  | member before after hlookup hfirst hplace =>
      have hfield := Shape.mem_of_lookup hlookup
      have halters := Shape.Alters.intro hplace hchange
      refine record_object_agree h record ?_ (kept_of_lookup hnodup hfield halters hfirst after)
      have hfault := h.fault?_congr _ _ _ fun t ht => shape_unique hnodup ht hfield ▸ halters
      simp only [List.findSome?_append, List.findSome?_cons, hfault]
  | element before after hlookup hitem hplace =>
      have hfield := Shape.mem_of_lookup hlookup
      have halters := Shape.Alters.intro hplace hchange
      obtain ⟨first, rest, hfirst, hzip⟩ := Shape.exists_zip_eq hlookup hitem after
      refine record_array_agree h record ?_ fun key t ht => ?_
      · simp only [List.length_append, List.length_cons]
      · rw [hzip, hzip]
        exact kept_of_lookup hnodup hfield halters hfirst rest key t ht

end Record

/-! ### Other values -/

theorem tolerates_plain (d : Decoder α) : d.Tolerates strict R .plain := by
  rintro _ _ ⟨path, t, c, x, y, hplace, hchange, rfl, rfl⟩
  cases hplace
  cases hchange

/-- Whatever stands for a flag is read. -/
theorem tolerates_flag : Flag.decoder.Tolerates strict (Same strict) .flag := by
  rintro _ _ ⟨path, t, c, x, y, hplace, hchange, rfl, rfl⟩
  cases hplace
  cases hchange with
  | flag hlax => exact .ok fun hstrict => absurd hstrict hlax

/-- Lists whose items are read alike. -/
def ReadAlike (strict : Prop) (d : Decoder α) (items items' : List Json) : Prop :=
  Agree (Same strict) (items.mapM d) (items'.mapM d)

theorem ReadAlike.refl (d : Decoder α) (items : List Json) : ReadAlike strict d items items :=
  Agree.refl (fun _ _ => rfl) _

/-- A list that is read one item at a time tolerates what its items tolerate. -/
theorem ReadAlike.of_item {d : Decoder α} {v w : Json} (h : Agree (Same strict) (d v) (d w))
    (before after : List Json) :
    ReadAlike strict d (before ++ v :: after) (before ++ w :: after) := by
  have hbefore : Agree (Same strict) (before.mapM d) (before.mapM d) := ReadAlike.refl d before
  have hafter : Agree (Same strict) (after.mapM d) (after.mapM d) := ReadAlike.refl d after
  have hcons : Agree (Same strict) ((v :: after).mapM d) ((w :: after).mapM d) := by
    rw [List.mapM_cons, List.mapM_cons]
    refine h.bind fun x x' hx => hafter.bind fun xs xs' hxs => .ok fun hstrict => ?_
    rw [hx hstrict, hxs hstrict]
  rw [ReadAlike, List.mapM_append, List.mapM_append]
  refine hbefore.bind fun xs xs' hxs => hcons.bind fun ys ys' hys => .ok fun hstrict => ?_
  rw [hxs hstrict, hys hstrict]

end Schema

end DetectorDashboard
