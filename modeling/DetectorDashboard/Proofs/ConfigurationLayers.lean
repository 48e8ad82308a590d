import DetectorDashboard.Configuration.Load
import DetectorDashboard.Proofs.InputText
import DetectorDashboard.Proofs.Utf8
import Mathlib.Data.List.Forall2
import Mathlib.Data.List.TakeWhile

/-!
The configuration in force, as a whole: each field of it comes from the place that counts most among
those that give it, and it is in force just if it can be run with. Whether the file alone could be
run with plays no part.
-/

namespace DetectorDashboard

theorem Text.colon_notMem_of_readUnsigned? {bound n : Nat} {cs : List Char}
    (h : readUnsigned? bound cs = some n) : ':' ∉ cs := by
  obtain ⟨-, sign, digits, rfl, hsign, -, hdigits, -⟩ := readUnsigned?_eq_some_iff.1 h
  rw [List.mem_append, not_or]
  constructor
  · rcases hsign with rfl | rfl <;> decide
  · exact fun hmem => absurd (hdigits ':' hmem) (by decide)

namespace Configuration

open Toml Text

section Address

theorem splitAddress?_of_notMem {s : String} (h : ':' ∉ s.toList) : splitAddress? s = none := by
  have passed : s.toList.reverse.dropWhile (· ≠ ':') = [] := by
    rw [List.dropWhile_eq_nil_iff]
    intro c hc
    simpa using fun heq : c = ':' => h (heq ▸ List.mem_reverse.1 hc)
  simp only [splitAddress?, passed]

theorem splitAddress?_append (host : String) {port : String} (h : ':' ∉ port.toList) :
    splitAddress? (host ++ ":" ++ port) = some (host, port) := by
  have reversed : (host ++ ":" ++ port).toList.reverse =
      port.toList.reverse ++ ':' :: host.toList.reverse := by simp
  have passed : ∀ c ∈ port.toList.reverse, decide (c ≠ ':') = true := by
    intro c hc
    simpa using fun heq : c = ':' => h (heq ▸ List.mem_reverse.1 hc)
  rw [splitAddress?, reversed, List.dropWhile_append_of_pos passed,
    List.takeWhile_append_of_pos passed]
  simp

variable (c : Configuration)

theorem withAddress_of_notMem {address : String} (h : ':' ∉ address.toList) :
    c.withAddress address = c := by
  rw [withAddress, splitAddress?_of_notMem h]

theorem withAddress_append (host : String) {text : String} (h : ':' ∉ text.toList) :
    c.withAddress (host ++ ":" ++ text) = (c.withHost host).change withPort (readPort? text) := by
  rw [withAddress, splitAddress?_append host h]

end Address

section File

/-- What a field holds: a text, or a number below a bound. -/
inductive Setting
  | text (s : String)
  | natural (bound n : Nat)

/-- Fields under the names that a file has for them, in their order. -/
abbrev Fields := List (String × Setting)

def serverFields (o : ServerOptions) : Fields :=
  [("host", .text o.host), ("port", .natural UInt16.size o.port)]

def apiFields (o : ApiOptions) : Fields :=
  [("base_url", .text o.baseUrl), ("version", .text o.version),
    ("detector_api", .text o.detectorApi), ("timeout_ms", .natural UInt64.size o.timeout)]

def pollingFields (o : PollingOptions) : Fields :=
  [("detector_interval_ms", .natural UInt64.size o.detectorPeriod),
    ("units_interval_ms", .natural UInt64.size o.unitsPeriod),
    ("table_rows", .natural UInt64.size o.tableRows)]

def pageFields (o : PageOptions) : Fields :=
  [("title", .text o.title), ("refresh_secs", .natural UInt32.size o.refreshSeconds),
    ("initial_fragment", .text o.fragment), ("assets_dir", .text o.assets)]

def logFields (o : LogOptions) : Fields :=
  [("filter", .text o.filter)]

def sections (c : Configuration) : List (String × Fields) :=
  [("server", serverFields c.server), ("api", apiFields c.api),
    ("polling", pollingFields c.polling), ("dashboard", pageFields c.page),
    ("logging", logFields c.log)]

inductive Spells : Node → Setting → Prop
  | text (s : String) : Spells (.string s) (.text s)
  | natural {bound n : Nat} (below : n < bound) : Spells (.integer n) (.natural bound n)

/-- A field holds what is given for it; with nothing given, its default. -/
def Holds (given? : Option Node) (default value : Setting) : Prop :=
  match given? with
  | none => value = default
  | some node => Spells node value

/-- So do the fields of a section. -/
def SectionHolds (document : Section) (default value : String × Fields) : Prop :=
  match document value.1 with
  | none => value.2 = default.2
  | some node =>
    ∃ given, section? (value.2.map Prod.fst) node = some given ∧
      List.Forall₂ (fun d v => Holds (given v.1) d.2 v.2) default.2 value.2

/-- The configuration of a document, with the defaults for what it leaves out. -/
def Gives (entries : Entries) (c : Configuration) : Prop :=
  List.Forall₂ (SectionHolds fun title => entries.lookup title) (sections {}) c.sections

variable {s : Section} {name : String}

theorem holds_text_iff {default value : String} :
    field? s name default text? = some value ↔ Holds (s name) (.text default) (.text value) := by
  unfold field?
  cases s name with
  | none => simp [Holds, eq_comm]
  | some node =>
    constructor
    · intro h
      cases node <;> cases h
      exact .text _
    · rintro ⟨⟩
      rfl

theorem holds_natural_iff {bound default value : Nat} :
    field? s name default (natural? bound) = some value ↔
      Holds (s name) (.natural bound default) (.natural bound value) := by
  unfold field?
  cases s name with
  | none => simp [Holds, eq_comm]
  | some node =>
    constructor
    · intro h
      cases node with
      | integer n =>
        obtain ⟨⟨hpos, hlt⟩, rfl⟩ : (0 ≤ n ∧ n < bound) ∧ n.toNat = value := by
          simpa [natural?] using h
        have back : n = (n.toNat : Int) := by omega
        show Spells (.integer n) _
        rw [back]
        exact .natural (by omega)
      | _ => cases h
    · intro h
      cases h with
      | natural below => simpa [natural?] using by omega

/-- A section is read as a whole if its fields are, one by one. -/
theorem sectionHolds_iff {α : Type} (fields : α → Fields) {default value : α}
    {read? : Node → Option α} (readFields? : Section → Option α)
    (bySection : ∀ node, read? node =
      (section? ((fields value).map Prod.fst) node).bind readFields?)
    (injective : fields value = fields default → value = default)
    (byField : ∀ given, readFields? given = some value ↔
      List.Forall₂ (fun d v => Holds (given v.1) d.2 v.2) (fields default) (fields value)) :
    field? s name default read? = some value ↔
      SectionHolds s (name, fields default) (name, fields value) := by
  unfold field? SectionHolds
  cases s name with
  | none =>
    constructor
    · rintro ⟨⟩
      rfl
    · intro h
      exact congrArg some (injective h).symm
  | some node => simp [Option.bind_eq_some_iff, bySection, byField]

theorem serverHolds_iff {o : ServerOptions} : field? s "server" {} server? = some o ↔
    SectionHolds s ("server", serverFields {}) ("server", serverFields o) := by
  cases o
  refine sectionHolds_iff serverFields _ (fun _ => rfl) ?_ ?_
  · simp [serverFields]
  · simp [serverFields, Option.bind_eq_some_iff, holds_text_iff, holds_natural_iff]

theorem apiHolds_iff {o : ApiOptions} : field? s "api" {} api? = some o ↔
    SectionHolds s ("api", apiFields {}) ("api", apiFields o) := by
  cases o
  refine sectionHolds_iff apiFields _ (fun _ => rfl) ?_ ?_
  · simp [apiFields]
  · simp [apiFields, Option.bind_eq_some_iff, holds_text_iff, holds_natural_iff]

theorem pollingHolds_iff {o : PollingOptions} : field? s "polling" {} polling? = some o ↔
    SectionHolds s ("polling", pollingFields {}) ("polling", pollingFields o) := by
  cases o
  refine sectionHolds_iff pollingFields _ (fun _ => rfl) ?_ ?_
  · simp [pollingFields]
  · simp [pollingFields, Option.bind_eq_some_iff, holds_natural_iff]

theorem pageHolds_iff {o : PageOptions} : field? s "dashboard" {} page? = some o ↔
    SectionHolds s ("dashboard", pageFields {}) ("dashboard", pageFields o) := by
  cases o
  refine sectionHolds_iff pageFields _ (fun _ => rfl) ?_ ?_
  · simp [pageFields]
  · simp [pageFields, Option.bind_eq_some_iff, holds_text_iff, holds_natural_iff]

theorem logHolds_iff {o : LogOptions} : field? s "logging" {} log? = some o ↔
    SectionHolds s ("logging", logFields {}) ("logging", logFields o) := by
  cases o
  refine sectionHolds_iff logFields _ (fun _ => rfl) ?_ ?_
  · simp [logFields]
  · simp [logFields, Option.bind_eq_some_iff, holds_text_iff]

theorem ofEntries?_eq_some_iff {entries : Entries} {c : Configuration} :
    ofEntries? entries = some c ↔ Gives entries c := by
  have sectionwise (document : Section) (h : document = fun title => entries.lookup title) :
      ofEntries? entries = some c ↔
        field? document "server" {} server? = some c.server ∧
        field? document "api" {} api? = some c.api ∧
        field? document "polling" {} polling? = some c.polling ∧
        field? document "dashboard" {} page? = some c.page ∧
        field? document "logging" {} log? = some c.log := by
    subst h
    cases c
    simp [ofEntries?, Option.bind_eq_some_iff]
  rw [sectionwise _ rfl, serverHolds_iff, apiHolds_iff, pollingHolds_iff, pageHolds_iff,
    logHolds_iff]
  simp only [Gives, sections, List.forall₂_cons, List.forall₂_nil_right_iff, and_true]

/-- What is found in the place of the file, with the defaults for what is missing. -/
def Found : ConfigurationFile → Configuration → Prop
  | .missing, c => c = {}
  | .unreadable, _ => False
  | .content bytes, c =>
    ∃ cs entries, bytes = Utf8.encode cs ∧ Toml.read? cs = some entries ∧ Gives entries c

/-- Bytes that are no text cannot be read, no more than a file that cannot be opened. -/
def Unreadable : ConfigurationFile → Prop
  | .missing => False
  | .unreadable => True
  | .content bytes => ∀ cs, bytes ≠ Utf8.encode cs

theorem ofText?_eq_some_iff {cs : List Char} {c : Configuration} :
    ofText? cs = some c ↔ ∃ entries, Toml.read? cs = some entries ∧ Gives entries c := by
  simp only [ofText?, Option.bind_eq_some_iff, ofEntries?_eq_some_iff]

theorem ofFile_eq_unreadable_iff {file : ConfigurationFile} :
    ofFile file = .error .unreadable ↔ Unreadable file := by
  cases file with
  | missing => simp [ofFile, Unreadable]
  | unreadable => simp [ofFile, Unreadable]
  | content bytes =>
    have undecoded : Unreadable (.content bytes) ↔ Utf8.decode? bytes = none := by
      simp [Unreadable, Option.eq_none_iff_forall_ne_some, Utf8.decode?_eq_some_iff]
    rw [undecoded, ofFile]
    split
    · simp [*]
    · split <;> simp [*]

theorem ofFile_eq_ok_iff {file : ConfigurationFile} {c : Configuration} :
    ofFile file = .ok c ↔ Found file c := by
  cases file with
  | missing => simp [ofFile, Found, eq_comm]
  | unreadable => simp [ofFile, Found]
  | content bytes =>
    have decoded : Found (.content bytes) c ↔
        ∃ cs, Utf8.decode? bytes = some cs ∧ ofText? cs = some c := by
      simp [Found, Utf8.decode?_eq_some_iff, ofText?_eq_some_iff]
    rw [decoded, ofFile]
    split
    · simp [*]
    · split <;> simp [*]

theorem ofFile_eq_unparsable_iff {file : ConfigurationFile} :
    ofFile file = .error .unparsable ↔
      ∃ cs, file = .content (Utf8.encode cs) ∧ ∀ c, ¬ Found file c := by
  simp only [← ofFile_eq_ok_iff]
  constructor
  · intro h
    cases file with
    | missing => cases h
    | unreadable => cases h
    | content bytes =>
      cases hdecoded : Utf8.decode? bytes with
      | none => simp [ofFile, hdecoded] at h
      | some cs =>
        obtain rfl := Utf8.decode?_eq_some_iff.1 hdecoded
        exact ⟨cs, rfl, by simp [h]⟩
  · rintro ⟨cs, rfl, h⟩
    have decoded : Utf8.decode? (Utf8.encode cs) = some cs := Utf8.decode?_eq_some_iff.2 rfl
    cases hread : ofText? cs with
    | none => simp [ofFile, decoded, hread]
    | some c => exact absurd (by simp [ofFile, decoded, hread]) (h c)

end File

section Environment

/-- The addresses that the variable for them may hold, with what is taken from each. -/
inductive Listens : Option String → Option (String × Nat) → Prop
  | unset : Listens none none
  | plain {value : String} (h : ':' ∉ value.toList) : Listens (some value) none
  | address (host : String) {text : String} {port : Nat} (h : readPort? text = some port) :
      Listens (some (host ++ ":" ++ text)) (some (host, port))

/-- The settings `base` under those of the environment, field by field. -/
def layered (base : Configuration) (env : Environment) (bound? : Option (String × Nat)) :
    Configuration where
  server :=
    { host := (bound?.map Prod.fst).getD ((env "EIGERDASH_HOST").getD base.server.host)
      port := (bound?.map Prod.snd).getD
        (((env "EIGERDASH_PORT").bind readPort?).getD base.server.port) }
  api := { base.api with baseUrl := (env "EIGERDASH_API_URL").getD base.api.baseUrl }
  polling := base.polling
  page := base.page
  log := { filter := ((env "RUST_LOG").or (env "EIGERDASH_LOG")).getD base.log.filter }

variable (c : Configuration)

theorem change_withHost (host? : Option String) :
    c.change withHost host? = c.withHost (host?.getD c.server.host) := by
  cases host? <;> rfl

theorem change_withPort (port? : Option Nat) :
    c.change withPort port? = c.withPort (port?.getD c.server.port) := by
  cases port? <;> rfl

theorem change_withBaseUrl (url? : Option String) :
    c.change withBaseUrl url? = c.withBaseUrl (url?.getD c.api.baseUrl) := by
  cases url? <;> rfl

theorem change_withFilter (filter? : Option String) :
    c.change withFilter filter? = c.withFilter (filter?.getD c.log.filter) := by
  cases filter? <;> rfl

theorem change_withAddress {address? : Option String} {bound? : Option (String × Nat)}
    (h : Listens address? bound?) :
    c.change withAddress address? =
      (c.withHost ((bound?.map Prod.fst).getD c.server.host)).withPort
        ((bound?.map Prod.snd).getD c.server.port) := by
  cases h with
  | unset => rfl
  | plain h => exact c.withAddress_of_notMem h
  | address host h =>
    have split := c.withAddress_append host (colon_notMem_of_readUnsigned? h)
    rw [h, change_withPort] at split
    exact split

theorem override_eq_layered {env : Environment} {bound? : Option (String × Nat)}
    (h : Listens (env "EIGERDASH_BIND") bound?) : override env c = layered c env bound? := by
  simp only [override, change_withHost, change_withPort, change_withAddress _ h,
    change_withBaseUrl, change_withFilter]
  simp [withHost, withPort, withBaseUrl, withFilter, layered, Option.getD_or]

end Environment

/-- What the dashboard needs to run. -/
structure Runnable (c : Configuration) : Prop where
  port : c.server.port ≠ 0
  baseUrl : ∃ ch ∈ c.api.baseUrl.toList, isBlank ch = false
  detectorPeriod : c.polling.detectorPeriod ≠ 0
  unitsPeriod : c.polling.unitsPeriod ≠ 0

theorem fault?_eq_none_iff {c : Configuration} : c.fault? = none ↔ Runnable c := by
  have named : c.fault? = none ↔
      c.server.port ≠ 0 ∧ trim c.api.baseUrl ≠ "" ∧
        ¬ (c.polling.detectorPeriod = 0 ∨ c.polling.unitsPeriod = 0) := by
    unfold fault?
    split_ifs <;> simp_all
  rw [named, Ne, Ne, trim_eq_empty_iff]
  constructor
  · rintro ⟨hport, hurl, hperiods⟩
    exact ⟨hport, by simpa [AllBlank] using hurl, fun h => hperiods (.inl h), fun h => hperiods (.inr h)⟩
  · rintro ⟨hport, hurl, hdetector, hunits⟩
    exact ⟨hport, by simpa [AllBlank] using hurl, by simp [hdetector, hunits]⟩

theorem load_of_error {file : ConfigurationFile} {e : ConfigurationError}
    (h : ofFile file = .error e) (env : Environment) : load file env = .error e := by
  rw [load, h]
  rfl

/-- Over a file with settings, what is loaded depends on the merged configuration only. -/
theorem load_of_ok {file : ConfigurationFile} {base : Configuration} (h : ofFile file = .ok base)
    (env : Environment) :
    load file env =
      match (base.override env).fault? with
      | some problem => .error (.invalid problem)
      | none => .ok (base.override env) := by
  rw [load, h]
  rfl

theorem load_eq_error_iff {file : ConfigurationFile} {env : Environment} {e : ConfigurationError}
    (valid : ∀ problem, e ≠ .invalid problem) :
    load file env = .error e ↔ ofFile file = .error e := by
  cases hfile : ofFile file with
  | error => rw [load_of_error hfile]
  | ok base =>
    rw [load_of_ok hfile]
    cases (base.override env).fault? with
    | none => simp
    | some problem => simp [(valid problem).symm]

/-- The fields of the configuration come from the environment where it has them, else from the file,
else from the defaults, and only the outcome has to be one that the dashboard can run with. -/
theorem load_layered (file : ConfigurationFile) (env : Environment)
    (bound? : Option (String × Nat)) (hbound : Listens (env "EIGERDASH_BIND") bound?) :
    (load file env = .error .unreadable ↔ Unreadable file) ∧
    (load file env = .error .unparsable ↔
      ∃ cs, file = .content (Utf8.encode cs) ∧ ∀ base, ¬ Found file base) ∧
    ∀ base, Found file base →
      (load file env = .ok (layered base env bound?) ↔ Runnable (layered base env bound?)) ∧
      (¬ Runnable (layered base env bound?) →
        ∃ problem, load file env = .error (.invalid problem)) := by
  refine ⟨?_, ?_, ?_⟩
  · rw [load_eq_error_iff (by simp), ofFile_eq_unreadable_iff]
  · rw [load_eq_error_iff (by simp), ofFile_eq_unparsable_iff]
  · intro base hbase
    rw [← override_eq_layered base hbound, ← fault?_eq_none_iff,
      load_of_ok (ofFile_eq_ok_iff.2 hbase)]
    cases (base.override env).fault? with
    | none => simp
    | some problem => simp

/-- A port of zero in the file does no harm under an address whose host has colons of its own, while
a port that is none is passed over. -/
theorem load_address_over_zero_port :
    let file := ConfigurationFile.content (Utf8.encode "[server]\nport = 0\n".toList)
    let env : Environment := fun name => List.lookup name
      [("EIGERDASH_PORT", "http"), ("EIGERDASH_BIND", "[::1]:4000"), ("EIGERDASH_LOG", "info"),
        ("RUST_LOG", "trace")]
    Listens (env "EIGERDASH_BIND") (some ("[::1]", 4000)) ∧
    Found file { server := { port := 0 } } ∧
    load file env = .ok { server := ⟨"[::1]", 4000⟩, log := ⟨"trace"⟩ } := by
  intro file env
  have bound : Listens (env "EIGERDASH_BIND") (some ("[::1]", 4000)) :=
    .address "[::1]" (by decide : readPort? "4000" = some 4000)
  have found : Found file { server := { port := 0 } } := ofFile_eq_ok_iff.1 (by decide +kernel)
  have runnable : Runnable (layered { server := { port := 0 } } env (some ("[::1]", 4000))) :=
    fault?_eq_none_iff.1 (by decide +kernel)
  exact ⟨bound, found, ((load_layered file env _ bound).2.2 _ found).1.2 runnable⟩

end Configuration

end DetectorDashboard
