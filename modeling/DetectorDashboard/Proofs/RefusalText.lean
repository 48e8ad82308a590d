import DetectorDashboard.ControlServer.Client
import DetectorDashboard.ControlServer.Response
import DetectorDashboard.Proofs.ByteReading

/-! What a response of the control server amounts to. A success gives the value of its body, or it
cannot be read; every other status is a refusal. The text of a refusal is the one `error` member of
an object. It is also the one item of an array, since a record is read from an array by the places
of its fields; any other body leaves nothing but the status. -/

namespace DetectorDashboard

namespace Json.Written

/-- A member whose key can be read and is another one. -/
def Apart (read? : List Piece → Option String) (key : String) (m : List Piece × Written) : Prop :=
  ∃ name, read? m.1 = some name ∧ name ≠ key

/-- An object that has one member with the key, whose value is a string with the text. -/
inductive Reports (read? : List Piece → Option String) (key : String) : Written → String → Prop
  | member {before later : List (List Piece × Written)} {name pieces : List Piece} {text : String} :
    (∀ m ∈ before, Apart read? key m) → (∀ m ∈ later, Apart read? key m) →
    read? name = some key → read? pieces = some text →
    Reports read? key (.object (before ++ (name, .text pieces) :: later)) text

/-- An array of one string with the text. -/
inductive Encloses (read? : List Piece → Option String) : Written → String → Prop
  | item {pieces : List Piece} {text : String} :
    read? pieces = some text → Encloses read? (.array [.text pieces]) text

end Json.Written

namespace ControlServer

open Json Json.Written

namespace ErrorText

theorem mapM_eq_some_iff {α β : Type} {f : α → Option β} {xs : List α} {ys : List β} :
    xs.mapM f = some ys ↔ xs.map f = ys.map some := by
  rw [← Text.Utf8.mapM_id_eq_some_iff, List.mapM_map]
  rfl

/-- A member under its key, if the key can be read. -/
def named? (m : List Piece × Written) : Option (String × Written) :=
  (ofPieces? m.1).map fun k => (k, m.2)

theorem forall_apart_iff {key : String} {members : List (List Piece × Written)} :
    (∀ m ∈ members, Apart ofPieces? key m) ↔
      ∃ keyed : List (String × Written), members.map named? = keyed.map some ∧
        keyed.filter (·.1 == key) = [] := by
  induction members with
  | nil => exact ⟨fun _ => ⟨[], rfl, rfl⟩, fun _ => nofun⟩
  | cons m rest ih =>
      rw [List.forall_mem_cons, ih]
      constructor
      · rintro ⟨⟨name, hname, hne⟩, keyed, hkeyed, hfilter⟩
        refine ⟨(name, m.2) :: keyed, ?_, ?_⟩
        · rw [List.map_cons, List.map_cons, hkeyed, named?, hname, Option.map_some]
        · rw [List.filter_cons_of_neg (by simpa using hne), hfilter]
      · rintro ⟨keyed, hkeyed, hfilter⟩
        obtain ⟨x, keyed, rfl, hx, hrest⟩ := List.map_eq_cons_iff.mp hkeyed.symm
        obtain ⟨name, hname, rfl⟩ := Option.map_eq_some_iff.mp hx.symm
        have hnone := List.filter_eq_nil_iff.mp hfilter
        have hne : name ≠ key := by simpa using hnone _ List.mem_cons_self
        refine ⟨⟨name, hname, hne⟩, keyed, hrest.symm, List.filter_eq_nil_iff.mpr fun y hy => ?_⟩
        exact hnone y (List.mem_cons_of_mem _ hy)

theorem member?_eq_some_iff {key : String} {members : List (List Piece × Written)} {v : Written} :
    member? key members = some v ↔ ∃ before name later, members = before ++ (name, v) :: later ∧
      (∀ m ∈ before, Apart ofPieces? key m) ∧ (∀ m ∈ later, Apart ofPieces? key m) ∧
        ofPieces? name = some key := by
  rw [member?, Option.bind_eq_bind, Option.bind_eq_some_iff]
  constructor
  · rintro ⟨keyed, hkeyed, honly⟩
    split at honly
    case h_2 => cases honly
    case h_1 k only hfilter =>
      obtain rfl := Option.some.inj honly
      obtain ⟨first, last, rfl, hfirst, hk, hlast⟩ := List.filter_eq_cons_iff.mp hfilter
      obtain rfl : k = key := by simpa using hk
      have hmap : members.map named? = _ := mapM_eq_some_iff.mp hkeyed
      rw [List.map_append, List.map_cons] at hmap
      obtain ⟨before, rest, rfl, hbefore, hrest⟩ := List.map_eq_append_iff.mp hmap
      obtain ⟨m, later, rfl, hm, hlater⟩ := List.map_eq_cons_iff.mp hrest
      obtain ⟨name, hname, hpair⟩ := Option.map_eq_some_iff.mp hm
      obtain ⟨rfl, rfl⟩ := Prod.mk.inj hpair
      refine ⟨before, m.1, later, rfl, ?_, ?_, hname⟩
      · exact forall_apart_iff.mpr ⟨first, hbefore, List.filter_eq_nil_iff.mpr hfirst⟩
      · exact forall_apart_iff.mpr ⟨last, hlater, hlast⟩
  · rintro ⟨before, name, later, rfl, hbefore, hlater, hname⟩
    obtain ⟨first, hfirst, hnone⟩ := forall_apart_iff.mp hbefore
    obtain ⟨last, hlast, hnone'⟩ := forall_apart_iff.mp hlater
    have hkeyed : (before ++ (name, v) :: later).map named? =
        (first ++ (key, v) :: last).map some := by
      rw [List.map_append, List.map_cons, List.map_append, List.map_cons, hfirst, hlast, named?,
        hname, Option.map_some]
    have honly : (first ++ (key, v) :: last).filter (·.1 == key) = [(key, v)] := by
      simp [List.filter_append, hnone, hnone']
    refine ⟨_, mapM_eq_some_iff.mpr hkeyed, ?_⟩
    rw [honly]

theorem ofText?_eq_some_iff {w : Written} {s : String} :
    ofText? w = some s ↔ ∃ pieces, w = .text pieces ∧ ofPieces? pieces = some s := by
  cases w <;> simp [ofText?]

/-- The text that the bytes of a body give. -/
theorem ofWritten?_eq_some_iff {w : Written} {s : String} :
    ofWritten? w = some s ↔ w.Reports ofPieces? "error" s ∨ w.Encloses ofPieces? s := by
  constructor
  · intro h
    unfold ofWritten? at h
    split at h
    · obtain ⟨v, hv, hs⟩ := Option.bind_eq_some_iff.mp h
      obtain ⟨pieces, rfl, hpieces⟩ := ofText?_eq_some_iff.mp hs
      obtain ⟨before, name, later, rfl, hbefore, hlater, hname⟩ := member?_eq_some_iff.mp hv
      exact .inl (.member hbefore hlater hname hpieces)
    · obtain ⟨pieces, rfl, hpieces⟩ := ofText?_eq_some_iff.mp h
      exact .inr (.item hpieces)
    · cases h
  · rintro (h | h)
    · obtain ⟨hbefore, hlater, hname, hpieces⟩ := h
      exact Option.bind_eq_some_iff.mpr
        ⟨_, member?_eq_some_iff.mpr ⟨_, _, _, rfl, hbefore, hlater, hname⟩, hpieces⟩
    · obtain ⟨hpieces⟩ := h
      exact hpieces

/-! ### Bytes and characters -/

theorem apart_memberInBytes {key : String} {m : List Piece × Written} :
    Apart ofPieces? key (memberInBytes m) ↔ Apart Piece.text? key m := by
  simp only [Apart, memberInBytes, ofPieces?_inBytes]

theorem eq_text_of_inBytes {w : Written} {pieces : List Piece} (h : w.inBytes = .text pieces) :
    ∃ pieces', w = .text pieces' ∧ pieces = pieces'.flatMap Piece.inBytes := by
  cases w with
  | text pieces' => exact ⟨pieces', rfl, (Written.text.inj h).symm⟩
  | _ => cases h

theorem reports_inBytes {w : Written} {key s : String} :
    w.inBytes.Reports ofPieces? key s ↔ w.Reports Piece.text? key s := by
  constructor
  · intro h
    generalize hw : w.inBytes = v at h
    obtain ⟨hbefore, hlater, hname, hpieces⟩ := h
    cases w with
    | object members =>
        rw [Written.inBytes_object] at hw
        obtain ⟨before, rest, rfl, rfl, hrest⟩ := List.map_eq_append_iff.mp (Written.object.inj hw)
        obtain ⟨⟨name, value⟩, later, rfl, hm, rfl⟩ := List.map_eq_cons_iff.mp hrest
        obtain ⟨rfl, hvalue⟩ := Prod.mk.inj hm
        obtain ⟨pieces, rfl, rfl⟩ := eq_text_of_inBytes hvalue
        rw [ofPieces?_inBytes] at hname hpieces
        refine .member ?_ ?_ hname hpieces
        · exact fun m hm => apart_memberInBytes.mp (hbefore _ (List.mem_map_of_mem hm))
        · exact fun m hm => apart_memberInBytes.mp (hlater _ (List.mem_map_of_mem hm))
    | _ => cases hw
  · rintro ⟨hbefore, hlater, hname, hpieces⟩
    rw [Written.inBytes_object, List.map_append, List.map_cons, memberInBytes, Written.inBytes]
    refine .member ?_ ?_ ?_ ?_
    · exact List.forall_mem_map.mpr fun m hm => apart_memberInBytes.mpr (hbefore m hm)
    · exact List.forall_mem_map.mpr fun m hm => apart_memberInBytes.mpr (hlater m hm)
    · rw [ofPieces?_inBytes, hname]
    · rw [ofPieces?_inBytes, hpieces]

theorem encloses_inBytes {w : Written} {s : String} :
    w.inBytes.Encloses ofPieces? s ↔ w.Encloses Piece.text? s := by
  constructor
  · intro h
    generalize hw : w.inBytes = v at h
    obtain ⟨hpieces⟩ := h
    cases w with
    | array items =>
        rw [Written.inBytes_array] at hw
        obtain ⟨item, hitems, hitem⟩ := List.map_eq_singleton_iff.mp (Written.array.inj hw)
        obtain ⟨pieces, rfl, rfl⟩ := eq_text_of_inBytes hitem
        rw [ofPieces?_inBytes] at hpieces
        exact hitems ▸ .item hpieces
    | _ => cases hw
  · rintro ⟨hpieces⟩
    rw [Written.inBytes_array, List.map_singleton, Written.inBytes]
    exact .item (by rw [ofPieces?_inBytes, hpieces])

theorem ofBody?_eq_some_iff {body : List UInt8} {s : String} :
    ofBody? body = some s ↔ ∃ w, Written.read? (body.map fun b => Char.ofNat b.toNat) = some w ∧
      (w.Reports ofPieces? "error" s ∨ w.Encloses ofPieces? s) := by
  simp only [ofBody?, Option.bind_eq_some_iff, ofWritten?_eq_some_iff]

theorem ofBody?_encode {cs : List Char} {s : String} :
    ofBody? (Text.Utf8.encode cs) = some s ↔ ∃ w, Written.read? cs = some w ∧
      (w.Reports Piece.text? "error" s ∨ w.Encloses Piece.text? s) := by
  have hbytes : (Text.Utf8.encode cs).map (fun b => Char.ofNat b.toNat) = cs.flatMap bytesOf :=
    List.map_flatMap
  rw [ofBody?_eq_some_iff, hbytes, read?_flatMap_bytesOf]
  simp only [Option.map_eq_some_iff, exists_exists_and_eq_and, reports_inBytes, encloses_inBytes]

end ErrorText

/-! ### Responses -/

/-- The body is a JSON text, whatever its numbers, its depth and its repeated keys. -/
def Response.Spells (r : Response) (w : Written) : Prop :=
  ∃ text : String, r.body = Text.Utf8.encode text.toList ∧ Written.read? text.toList = some w

namespace Response

theorem spells_encode {status : Nat} {text : String} {w : Written} :
    Spells ⟨status, Text.Utf8.encode text.toList⟩ w ↔
      Written.read? text.toList = some w := by
  constructor
  · rintro ⟨text', hbody, hw⟩
    have hsame : some text.toList = some text'.toList := by
      rw [← Text.Utf8.decode?_eq_some_iff.mpr hbody, Text.Utf8.decode?_eq_some_iff.mpr rfl]
    rwa [Option.some.inj hsame]
  · exact fun hw => ⟨text, rfl, hw⟩

theorem json?_eq_some_iff {body : List UInt8} {v : Json} :
    json? body = some v ↔
      ∃ text : String, body = Text.Utf8.encode text.toList ∧ Json.read? text = some v := by
  simp only [json?, Option.bind_eq_some_iff, Text.Utf8.decode?_eq_some_iff]
  constructor
  · rintro ⟨cs, rfl, hread⟩
    exact ⟨String.ofList cs, by rw [String.toList_ofList], hread⟩
  · rintro ⟨text, rfl, hread⟩
    exact ⟨text.toList, rfl, by rwa [String.ofList_toList]⟩

theorem content_eq_ok_iff {body : List UInt8} {v : Json} :
    content body = .ok v ↔ body = [] ∧ v = .null ∨
      ∃ text : String, body = Text.Utf8.encode text.toList ∧ Json.read? text = some v := by
  rw [← json?_eq_some_iff, content]
  by_cases hbody : body = []
  · have hnone : json? [] = none := rfl
    simp [hbody, hnone, eq_comm]
  · rw [if_neg hbody]
    cases json? body <;> simp [hbody]

theorem transport_of_content_eq_error {body : List UInt8} {failure : Failure}
    (h : content body = .error failure) : ∃ message, failure = .transport message := by
  unfold content at h
  split at h
  · cases h
  · split at h
    · cases h
    · exact ⟨_, (Except.error.inj h).symm⟩

end Response

/-- A success gives the value of its body, or it cannot be read. Any other status is a refusal, with
the text that the body gives for it or else with the status alone. A body that is not in UTF-8 can
only give a text if its bytes, each taken for a character, are such a document. -/
theorem reply_of_response (client : Client) (call : Call) (r : Response) :
    let result := reply (client.request call).url (some r)
    let status := "HTTP " ++ Text.decimal r.status
    (r.isSuccess = true →
      (∀ v, result = .ok v ↔ r.body = [] ∧ v = .null ∨
        ∃ text : String, r.body = Text.Utf8.encode text.toList ∧ Json.read? text = some v) ∧
      ∀ failure, result = .error failure → ∃ message, failure = .transport message) ∧
    (r.isSuccess = false →
      ∃ s, result = .error (.rejected s) ∧
        (∀ w t, r.Spells w → w.Reports Piece.text? "error" t ∨ w.Encloses Piece.text? t → s = t) ∧
        ((∃ text : String, r.body = Text.Utf8.encode text.toList) →
          (∀ w t, r.Spells w → ¬ w.Reports Piece.text? "error" t ∧ ¬ w.Encloses Piece.text? t) →
          s = status) ∧
        (s = status ∨ ∃ w, Written.read? (r.body.map fun b => Char.ofNat b.toNat) = some w ∧
          (w.Reports ErrorText.ofPieces? "error" s ∨ w.Encloses ErrorText.ofPieces? s))) := by
  intro result status
  have hreply : result = if r.isSuccess then Response.content r.body else
      .error (.rejected ((ErrorText.ofBody? r.body).getD status)) := rfl
  constructor
  · intro hsuccess
    rw [hreply, if_pos hsuccess]
    refine ⟨fun v => Response.content_eq_ok_iff, fun failure hfailure => ?_⟩
    exact Response.transport_of_content_eq_error hfailure
  · intro hrefused
    refine ⟨_, hreply.trans (if_neg (Bool.eq_false_iff.mp hrefused)), ?_, ?_, ?_⟩
    · rintro w t ⟨text, hbody, hw⟩ ht
      rw [hbody, ErrorText.ofBody?_encode.mpr ⟨w, hw, ht⟩, Option.getD_some]
    · rintro ⟨text, hbody⟩ hnone
      cases hsome : ErrorText.ofBody? r.body with
      | none => rfl
      | some t =>
          rw [hbody] at hsome
          obtain ⟨w, hw, ht⟩ := ErrorText.ofBody?_encode.mp hsome
          obtain ⟨hreports, hencloses⟩ := hnone w t ⟨text, hbody, hw⟩
          exact absurd ht (not_or.mpr ⟨hreports, hencloses⟩)
    · cases hsome : ErrorText.ofBody? r.body with
      | none => exact .inl rfl
      | some t => exact .inr (ErrorText.ofBody?_eq_some_iff.mp hsome)

/-- A value, a refusal with a text, and one without. -/
theorem replies_of_short_bodies :
    let client : Client := ⟨"http://localhost"⟩
    let call : Call := ⟨.get, "/api", none⟩
    let replyTo (status : Nat) (body : String) :=
      reply (client.request call).url (some ⟨status, Text.Utf8.encode body.toList⟩)
    replyTo 200 "[1]" = .ok (.array [.number (.count 1)]) ∧
      replyTo 400 "\x7b\"error\":\"no\"\x7d" = .error (.rejected "no") ∧
      replyTo 404 "null" = .error (.rejected "HTTP 404") := by
  intro client call replyTo
  refine ⟨?_, ?_, ?_⟩
  · have hvalue := ((reply_of_response client call ⟨200, Text.Utf8.encode "[1]".toList⟩).1 rfl).1
    exact (hvalue _).mpr (.inr ⟨"[1]", rfl, rfl⟩)
  · obtain ⟨s, hs, hreported, -⟩ := (reply_of_response client call
      ⟨400, Text.Utf8.encode "\x7b\"error\":\"no\"\x7d".toList⟩).2 rfl
    have hno : s = "no" := by
      refine hreported _ "no" (Response.spells_encode.mpr rfl) (.inl ?_)
      exact @Reports.member _ _ [] [] _ _ _ nofun nofun rfl rfl
    exact hno ▸ hs
  · obtain ⟨s, hs, -, hstatus, -⟩ := (reply_of_response client call
      ⟨404, Text.Utf8.encode "null".toList⟩).2 rfl
    have hno : s = "HTTP 404" := by
      refine hstatus ⟨"null", rfl⟩ fun w t hw => ?_
      obtain rfl : Written.null = w := Option.some.inj (Response.spells_encode.mp hw)
      exact ⟨nofun, nofun⟩
    exact hno ▸ hs

/-- The one item of an array is shown as the text of a refusal, though the body is no object. -/
theorem text_of_enclosing_array :
    let r : Response := ⟨500, Text.Utf8.encode "[\"boom\"]".toList⟩
    (∃ items, r.Spells (.array items)) ∧
      (∀ w, r.Spells w → ∀ key t, ¬ w.Reports Piece.text? key t) ∧
      reply "http://localhost/api" (some r) = .error (.rejected "boom") ∧ "boom" ≠ "HTTP 500" := by
  intro r
  have hspells {w : Written} (hw : r.Spells w) :
      w = .array [.text [.char 'b', .char 'o', .char 'o', .char 'm']] :=
    (Option.some.inj (Response.spells_encode.mp hw)).symm
  refine ⟨⟨_, Response.spells_encode.mpr rfl⟩, fun w hw key t ht => ?_, by rfl, by decide⟩
  rw [hspells hw] at ht
  cases ht

end ControlServer

end DetectorDashboard
