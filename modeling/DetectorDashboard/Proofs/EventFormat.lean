import DetectorDashboard.Http.EventStream
import DetectorDashboard.Proofs.JsonText
import DetectorDashboard.Proofs.Utf8

/-! What the reader of an event stream makes of its bytes. The format is one of lines: a field is a
line with a name and a value, an empty line ends an event, and a line that is no known field, such
as a comment, counts for nothing. The frames of updates are read as one event each, whatever texts
the updates hold, since a JSON text has no line ends. -/

namespace DetectorDashboard

/-- An event as its reader gets it. -/
structure ServerEvent where
  name : String
  data : String
deriving DecidableEq

namespace ServerEvent

/-- The lines of a stream, of which `line` has been read. A line is ended by a carriage return, a
line feed or both; one that is not ended is not read. -/
def lines (line : List Char) : List Char → List (List Char)
  | [] => []
  | '\r' :: '\n' :: rest => line :: lines [] rest
  | '\r' :: rest => line :: lines [] rest
  | '\n' :: rest => line :: lines [] rest
  | c :: rest => lines (line ++ [c]) rest

/-- The name and the value of the field in a line. One space before the value is not part of it; a
comment is a field without a name. -/
def field (line : List Char) : List Char × List Char :=
  let name := line.takeWhile (· ≠ ':')
  match line.dropWhile (· ≠ ':') with
  | ':' :: ' ' :: value => (name, value)
  | _ :: value => (name, value)
  | [] => (name, [])

/-- What has been read of an event. -/
structure Draft where
  name : List Char := []
  data : List (List Char) := []

namespace Draft

def add (d : Draft) (line : List Char) : Draft :=
  let (name, value) := field line
  if name = "event".toList then { d with name := value }
  else if name = "data".toList then { d with data := d.data ++ [value] }
  else d

/-- The event, unless it has no data. -/
def event? (d : Draft) : Option ServerEvent :=
  if d.data = [] then none
  else
    some ⟨if d.name = [] then "message" else String.ofList d.name,
      String.ofList (['\n'].intercalate d.data)⟩

end Draft

def ofLines (d : Draft) : List (List Char) → List ServerEvent
  | [] => []
  | line :: rest =>
    if line = [] then d.event?.toList ++ ofLines {} rest
    else ofLines (d.add line) rest

def ofChars (cs : List Char) : List ServerEvent :=
  ofLines {} (lines [] cs)

/-- The events of a stream. A byte order mark at its start is not part of the first line. -/
def parse (bytes : List UInt8) : List ServerEvent :=
  match Text.Utf8.repair bytes with
  | '\uFEFF' :: cs => ofChars cs
  | cs => ofChars cs

end ServerEvent

/-- A text within one line. -/
def IsLine (text : List Char) : Prop :=
  '\r' ∉ text ∧ '\n' ∉ text

instance (text : List Char) : Decidable (IsLine text) :=
  inferInstanceAs (Decidable (_ ∧ _))

theorem IsLine.append {left right : List Char} (hleft : IsLine left) (hright : IsLine right) :
    IsLine (left ++ right) := by
  constructor
  · rw [List.mem_append, not_or]
    exact ⟨hleft.1, hright.1⟩
  · rw [List.mem_append, not_or]
    exact ⟨hleft.2, hright.2⟩

/-- An event of that name has one line of data, which is read as an object of these members and no
others. -/
structure ServerEvent.Says (e : ServerEvent) (name : String) (members : List (String × Json)) :
    Prop where
  name_eq : e.name = name
  isLine_data : IsLine e.data.toList
  read?_data : ∃ found, Json.read? e.data = some (.object found) ∧ found.Perm members

namespace ServerEvent

theorem lines_append {text : List Char} (h : IsLine text) (line rest : List Char) :
    lines line (text ++ '\n' :: rest) = (line ++ text) :: lines [] rest := by
  induction text generalizing line with
  | nil => rw [List.nil_append, List.append_nil, lines]
  | cons c text ih =>
      obtain ⟨hreturn, hreturns⟩ := List.ne_and_not_mem_of_not_mem_cons h.1
      obtain ⟨hfeed, hfeeds⟩ := List.ne_and_not_mem_of_not_mem_cons h.2
      have hstep : lines line (c :: (text ++ '\n' :: rest)) =
          lines (line ++ [c]) (text ++ '\n' :: rest) := by
        rw [lines]
        · exact fun _ h => absurd h.symm hreturn
        · exact hreturn.symm
        · exact hfeed.symm
      rw [List.cons_append, hstep, ih ⟨hreturns, hfeeds⟩, List.append_assoc, List.singleton_append]

/-- The lines of an event are its name, its data and an empty line. -/
theorem ofChars_event {name data : List Char} (hname : IsLine name) (hne : name ≠ [])
    (hdata : IsLine data) (rest : List Char) :
    ofChars ("event: ".toList ++ name ++ "\ndata: ".toList ++ data ++ "\n\n".toList ++ rest) =
      ⟨String.ofList name, String.ofList data⟩ :: ofChars rest := by
  have hnameLine : IsLine ("event: ".toList ++ name) := IsLine.append (by decide) hname
  have hdataLine : IsLine ("data: ".toList ++ data) := IsLine.append (by decide) hdata
  have htext : "event: ".toList ++ name ++ "\ndata: ".toList ++ data ++ "\n\n".toList ++ rest =
      "event: ".toList ++ name ++ '\n' :: ("data: ".toList ++ data ++ '\n' :: ('\n' :: rest)) := by
    simp
  rw [htext, ofChars, lines_append hnameLine, lines_append hdataLine, lines]
  have hadd : (({} : Draft).add ("event: ".toList ++ name)).add ("data: ".toList ++ data) =
      ⟨name, [data]⟩ := rfl
  have hread : (⟨name, [data]⟩ : Draft).event? =
      some ⟨String.ofList name, String.ofList data⟩ := by
    simp [Draft.event?, hne, List.intercalate]
  have hevent : [] ++ ("event: ".toList ++ name) ≠ [] := by simp
  have hfield : [] ++ ("data: ".toList ++ data) ≠ [] := by simp
  rw [ofLines, if_neg hevent, ofLines, if_neg hfield, List.nil_append, List.nil_append, hadd,
    ofLines, if_pos rfl, hread]
  rfl

theorem ofChars_comment (rest : List Char) : ofChars (":\n\n".toList ++ rest) = ofChars rest := rfl

end ServerEvent

namespace Update

/-- The event that announces an update. -/
def event (u : Update) : ServerEvent :=
  ⟨u.name, u.json.text⟩

theorem name_mem (u : Update) : u.name ∈ ["rendered", "navigated", "alert"] := by
  cases u <;> simp [name]

theorem isLine_name (u : Update) : IsLine u.name.toList := by
  have hnames : ∀ name ∈ ["rendered", "navigated", "alert"], IsLine name.toList := by decide
  exact hnames _ u.name_mem

theorem name_ne_nil (u : Update) : u.name.toList ≠ [] := by
  have hnames : ∀ name ∈ ["rendered", "navigated", "alert"], name.toList ≠ [] := by decide
  exact hnames _ u.name_mem

/-- The fields of an update and its name are read back from its text. -/
theorem readable_fields (u : Update) (depth : Nat) :
    ∀ m ∈ ("type", Json.string u.name) :: u.fields, m.2.Readable depth := by
  rw [List.forall_mem_cons]
  refine ⟨Json.readable_string depth _, ?_⟩
  cases u with
  | rendered endpoint seq =>
      simp only [fields, List.forall_mem_cons]
      exact ⟨Json.readable_string depth _, Json.readable_integer depth _, nofun⟩
  | navigated panel title =>
      simp only [fields, List.forall_mem_cons]
      exact ⟨Json.readable_string depth _, Json.readable_string depth _, nofun⟩
  | alert message =>
      simp only [fields, List.forall_mem_cons]
      exact ⟨Json.readable_string depth _, nofun⟩

theorem isLine_text (u : Update) : IsLine u.json.text.toList := by
  have hprintable := Json.isPrintable_object (u.readable_fields 0)
  rw [Json.text, String.toList_ofList]
  constructor
  · intro hreturn
    exact absurd (hprintable _ hreturn) (by decide)
  · intro hfeed
    exact absurd (hprintable _ hfeed) (by decide)

/-- The text of an update has exactly its fields and its name. -/
theorem read?_text (u : Update) : ∃ members, Json.read? u.json.text = some (.object members) ∧
    members.Perm (("type", .string u.name) :: u.fields) := by
  have hkeys : ((("type", Json.string u.name) :: u.fields).map (·.1)).Nodup := by
    cases u with
    | _ => simp [fields]
  obtain ⟨members, hmembers, hperm⟩ := Json.ofMembers_perm hkeys
  refine ⟨members, ?_, hperm⟩
  rw [← hmembers]
  exact Json.read?_object (u.readable_fields 126)

theorem says_event (u : Update) : u.event.Says u.name (("type", .string u.name) :: u.fields) :=
  ⟨rfl, u.isLine_text, u.read?_text⟩

end Update

namespace Http

/-- A frame of a stream: that of an update, or a comment. -/
def frame : Option Update → String
  | some u => eventFrame u
  | none => commentFrame

/-- What is sent for the frames of a stream. -/
def streamBytes (frames : List String) : List UInt8 :=
  Text.Utf8.encode (frames.flatMap (·.toList))

theorem toList_eventFrame (u : Update) : (eventFrame u).toList =
    "event: ".toList ++ u.name.toList ++ "\ndata: ".toList ++ u.json.text.toList ++
      "\n\n".toList := by
  have hframe : eventFrame u = "event: " ++ u.name ++ "\ndata: " ++ u.json.text ++ "\n\n" := rfl
  rw [hframe, String.toList_append, String.toList_append, String.toList_append,
    String.toList_append]

theorem ofChars_frame (part : Option Update) (rest : List Char) :
    ServerEvent.ofChars ((frame part).toList ++ rest) =
      (part.map Update.event).toList ++ ServerEvent.ofChars rest := by
  cases part with
  | none => exact ServerEvent.ofChars_comment rest
  | some u =>
      have hread := ServerEvent.ofChars_event u.isLine_name u.name_ne_nil u.isLine_text rest
      rw [String.ofList_toList, String.ofList_toList] at hread
      rw [frame, toList_eventFrame, hread]
      rfl

theorem ofChars_frames (parts : List (Option Update)) :
    ServerEvent.ofChars ((parts.map frame).flatMap (·.toList)) =
      parts.reduceOption.map Update.event := by
  induction parts with
  | nil => rfl
  | cons part rest ih =>
      rw [List.map_cons, List.flatMap_cons, ofChars_frame, ih]
      cases part with
      | none => rfl
      | some u => rfl

/-- The bytes of a stream are read as the events of its updates, whatever texts these hold. -/
theorem parse_streamBytes (parts : List (Option Update)) :
    ServerEvent.parse (streamBytes (parts.map frame)) = parts.reduceOption.map Update.event := by
  rw [ServerEvent.parse, streamBytes, Text.Utf8.repair_encode]
  -- no frame starts with a byte order mark
  have hmark : ∀ cs, (parts.map frame).flatMap (·.toList) ≠ '\uFEFF' :: cs := by
    intro cs h
    cases parts with
    | nil => cases h
    | cons part rest =>
        rw [List.map_cons, List.flatMap_cons] at h
        cases part with
        | none => exact absurd (List.cons.inj h).1 (by decide)
        | some u =>
            rw [frame, toList_eventFrame] at h
            exact absurd (List.cons.inj h).1 (by decide)
  split
  · rename_i cs h
    exact absurd h (hmark cs)
  · exact ofChars_frames parts

end Http

end DetectorDashboard
