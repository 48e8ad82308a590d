import DetectorDashboard.Proofs.FloatText
import DetectorDashboard.Proofs.InputFields
import DetectorDashboard.Proofs.Overflow
import DetectorDashboard.Proofs.RefusedRequest

/-! Times as they are typed and as they are sent. What would not be sent as a number is never taken
for a time: a text with a minus sign, a word for an infinity or for no number at all, and a number
that is too large for a finite floating-point number. -/

namespace DetectorDashboard

open Text (AllBlank Trims trim)

/-! ### Numbers in an input field -/

namespace Spelling

/-- A text of a number as an input field takes it. -/
def IsWritten (s : Spelling) (cs : List Char) : Prop :=
  s.IsLax ∧ ∃ letter, IsExponentLetter letter ∧ cs = s.charsWith letter

theorem read?_of_isWritten {s : Spelling} {cs : List Char} (h : s.IsWritten cs) :
    read? cs = some s := by
  obtain ⟨hlax, letter, hletter, rfl⟩ := h
  exact read?_charsWith hlax hletter

theorem IsWritten.unique {s s' : Spelling} {cs : List Char} (h : s.IsWritten cs)
    (h' : s'.IsWritten cs) : s = s' :=
  Option.some.inj ((read?_of_isWritten h).symm.trans (read?_of_isWritten h'))

theorem isWritten_iff {s : Spelling} {cs : List Char} :
    s.IsWritten cs ↔ read? cs = some s ∧ s.whole ++ s.fraction.getD [] ≠ [] := by
  constructor
  · intro h
    exact ⟨read?_of_isWritten h, h.1.someDigit⟩
  · rintro ⟨hread, hdigit⟩
    obtain ⟨hspelled, htext⟩ := exists_of_read?_eq_some hread
    exact ⟨⟨hspelled, hdigit⟩, htext⟩

end Spelling

namespace Binary64

/-- A word that stands for an infinity or for no number at all. The case does not matter. -/
def IsWord (cs : List Char) : Prop :=
  String.ofList (cs.map Char.toLower) ∈ ["inf", "infinity", "nan"]

instance (cs : List Char) : Decidable (IsWord cs) :=
  inferInstanceAs (Decidable (_ ∈ _))

theorem toLower_ne_of_first {c : Char} (hc : c.isDigit = true ∨ c = '.') :
    c.toLower ≠ 'i' ∧ c.toLower ≠ 'n' := by
  rcases hc with hdigit | rfl
  · have hlower : c.toLower = c := by
      refine dif_neg fun hupper => ?_
      have hle : c.val ≤ '9'.val := by
        simp only [Char.isDigit, Bool.and_eq_true, decide_eq_true_eq] at hdigit
        exact hdigit.2
      exact absurd (UInt32.le_trans hupper.1 hle) (by decide)
    rw [hlower]
    constructor <;>
    · rintro rfl
      cases hdigit
  · decide

theorem not_isWord_cons {c : Char} (hc : c.toLower ≠ 'i' ∧ c.toLower ≠ 'n') (rest : List Char) :
    ¬ IsWord (c :: rest) := by
  intro h
  obtain ⟨hi, hn⟩ := hc
  simp only [IsWord, List.map_cons, List.mem_cons, List.not_mem_nil, or_false] at h
  rcases h with h | h | h
  · exact hi (List.cons.inj (String.ofList_injective h)).1
  · exact hi (List.cons.inj (String.ofList_injective h)).1
  · exact hn (List.cons.inj (String.ofList_injective h)).1

theorem IsWord.ne_sign {cs : List Char} (h : IsWord cs) :
    ∀ c ∈ cs.head?, c ≠ '+' ∧ c ≠ '-' := by
  intro c hc
  cases cs with
  | nil => cases hc
  | cons d rest =>
      obtain rfl := Option.some.inj hc
      constructor <;>
      · rintro rfl
        exact not_isWord_cons (by decide) rest h

theorem read?_ne_finite_of_isWord {cs : List Char} (h : IsWord (Spelling.readSign cs).2)
    (x : Finite) : read? cs ≠ some (.finite x) := by
  simp only [IsWord, List.mem_cons, List.not_mem_nil, or_false] at h
  rcases h with h | h | h <;> simp [read?, h]

theorem read?_of_not_isWord {cs : List Char} (h : ¬ IsWord (Spelling.readSign cs).2) :
    read? cs = (Spelling.read? cs).bind fun s =>
      if s.whole ++ s.fraction.getD [] = [] then none else some s.binary64 := by
  simp only [IsWord, List.mem_cons, List.not_mem_nil, or_false, not_or] at h
  obtain ⟨hinf, hinfinity, hnan⟩ := h
  simp only [read?, hinf, hinfinity, hnan, or_self, if_false]

theorem ofMagnitude?_eq_finite_iff {negative : Bool} {m? : Option Magnitude} {x : Finite} :
    ofMagnitude? negative m? = .finite x ↔ negative = x.negative ∧ m? = some x.magnitude := by
  obtain ⟨negative', m⟩ := x
  cases m? <;> simp [ofMagnitude?]

/-- The finite numbers that an input field takes are those of a written spelling for which there is a
magnitude. -/
theorem read?_eq_finite_iff {cs : List Char} {x : Finite} :
    read? cs = some (.finite x) ↔ ∃ s : Spelling, s.IsWritten cs ∧ s.negative = x.negative ∧
      s.decimal.magnitude? = some x.magnitude := by
  constructor
  · intro h
    have hword : ¬ IsWord (Spelling.readSign cs).2 := fun hword =>
      read?_ne_finite_of_isWord hword x h
    rw [read?_of_not_isWord hword, Option.bind_eq_some_iff] at h
    obtain ⟨s, hread, hvalue⟩ := h
    by_cases hdigit : s.whole ++ s.fraction.getD [] = []
    · rw [if_pos hdigit] at hvalue
      cases hvalue
    · rw [if_neg hdigit] at hvalue
      exact ⟨s, Spelling.isWritten_iff.mpr ⟨hread, hdigit⟩,
        ofMagnitude?_eq_finite_iff.mp (Option.some.inj hvalue)⟩
  · rintro ⟨s, hwritten, hvalue⟩
    have hread := Spelling.read?_of_isWritten hwritten
    obtain ⟨hlax, letter, -, rfl⟩ := hwritten
    obtain ⟨c, rest, hfirst, hc⟩ := hlax.exists_unsigned_eq_cons letter
    have hword : ¬ IsWord (Spelling.readSign (s.charsWith letter)).2 := by
      rw [Spelling.readSign_charsWith hlax, hfirst]
      exact not_isWord_cons (toLower_ne_of_first hc) rest
    rw [read?_of_not_isWord hword, hread, Option.bind_some, if_neg hlax.someDigit]
    exact congrArg some (ofMagnitude?_eq_finite_iff.mpr hvalue)

end Binary64

/-- The value of a floating-point number in JSON, which has none for those that are not finite. -/
def Json.ofBinary64 : Binary64 → Json
  | .finite x => .number (.float x)
  | .infinite _ | .nan => .null

/-- The text of a magnitude is that of a JSON number without a sign, which denotes the magnitude. -/
theorem Json.exists_written_magnitude (m : Binary64.Magnitude) :
    ∃ s : Spelling, Written.read? (Json.ofBinary64 (.finite ⟨false, m⟩)).text.toList =
      some (.number s) ∧ s.sign = none ∧ s.decimal.magnitude? = some m := by
  obtain ⟨s, hs⟩ := Layout.exists_spells m
  have hnumber : (Json.ofBinary64 (.finite ⟨false, m⟩)).chars =
      (Number.float ⟨false, m⟩).chars := List.append_nil _
  refine ⟨s, ?_, hs.unsigned, ?_⟩
  · rw [toList_text, hnumber, Number.chars, Layout.finiteText, if_neg Bool.false_ne_true,
      List.nil_append, ← hs.chars_eq]
    exact read?_chars_spelling hs.proper hs.number
  · exact (Decimal.magnitude?_congr hs.value_eq).trans (Decimal.magnitude?_shortest _ m)

/-! ### Times -/

namespace Command

/-- A number without a minus sign, with blanks around it, and the magnitude that it is rounded
to. -/
def SpellsTime (input : String) (m : Binary64.Magnitude) : Prop :=
  ∃ core, Trims input core ∧ ∃ s : Spelling, s.IsWritten core.toList ∧ s.sign ≠ some '-' ∧
    s.decimal.magnitude? = some m

/-- The texts that are no time. Zero with a minus sign is among them. -/
inductive NotATime : List Char → Prop
  | minus (rest : List Char) : NotATime ('-' :: rest)
  | word (sign : Option Char) (hsign : ∀ c ∈ sign, c = '+' ∨ c = '-') (word : List Char)
      (hword : Binary64.IsWord word) : NotATime (sign.toList ++ word)
  | large (s : Spelling) (cs : List Char) (hs : s.IsWritten cs)
      (hvalue : 2 ^ 1024 - 2 ^ 970 ≤ s.decimal.value) : NotATime cs

theorem readSeconds?_eq_some_iff {cs : List Char} {m : Binary64.Magnitude} :
    readSeconds? cs = some m ↔ Binary64.read? cs = some (.finite ⟨false, m⟩) := by
  unfold readSeconds?
  split
  · rename_i x hread
    obtain ⟨negative, m'⟩ := x
    cases negative <;> simp [hread]
  · rename_i hother
    exact iff_of_false nofun (hother _)

theorem spellsTime_iff {input : String} {m : Binary64.Magnitude} :
    SpellsTime input m ↔ readSeconds? (trim input).toList = some m := by
  have hsign (s : Spelling) : s.negative = false ↔ s.sign ≠ some '-' := by
    simp [Spelling.negative]
  rw [SpellsTime, Text.exists_trims_iff, readSeconds?_eq_some_iff, Binary64.read?_eq_finite_iff]
  simp only [hsign]

/-- A number without a minus sign is a time just if it is not too large. -/
theorem exists_spellsTime_iff {input : String} {s : Spelling}
    (h : s.IsWritten (trim input).toList) :
    (∃ m, SpellsTime input m) ↔ s.sign ≠ some '-' ∧ s.decimal.value < 2 ^ 1024 - 2 ^ 970 := by
  simp only [SpellsTime, Text.exists_trims_iff]
  rw [← Decimal.isSome_magnitude?_iff, Option.isSome_iff_exists]
  constructor
  · rintro ⟨m, s', hs', hsign, hm⟩
    obtain rfl := h.unique hs'
    exact ⟨hsign, m, hm⟩
  · rintro ⟨hsign, m, hm⟩
    exact ⟨m, s, h, hsign, hm⟩

theorem NotATime.ne_nil {cs : List Char} (h : NotATime cs) : cs ≠ [] := by
  cases h with
  | minus rest => exact List.cons_ne_nil _ _
  | word sign hsign word hword =>
      rintro hnil
      obtain ⟨-, rfl⟩ := List.append_eq_nil_iff.mp hnil
      exact absurd hword (by decide)
  | large s cs hs hvalue =>
      rintro rfl
      have hread := Spelling.read?_of_isWritten hs
      obtain rfl : s = ⟨none, [], none, none⟩ := (Option.some.inj hread).symm
      exact hs.1.someDigit rfl

theorem NotATime.readSeconds?_eq_none {cs : List Char} (h : NotATime cs) :
    readSeconds? cs = none := by
  refine Option.eq_none_iff_forall_ne_some.mpr fun m hm => ?_
  have hfinite := readSeconds?_eq_some_iff.mp hm
  cases h with
  | word sign hsign word hword =>
      have hunsigned : (Spelling.readSign (sign.toList ++ word)).2 = word := by
        rw [Spelling.readSign_append hsign hword.ne_sign]
      exact Binary64.read?_ne_finite_of_isWord (hunsigned.symm ▸ hword) _ hfinite
  | minus rest =>
      obtain ⟨s, ⟨hlax, letter, -, htext⟩, hsign, -⟩ := Binary64.read?_eq_finite_iff.mp hfinite
      have hminus : s.sign = some '-' := by
        have hread := Spelling.readSign_charsWith hlax letter
        rw [← htext] at hread
        exact (Prod.mk.inj hread).1.symm
      rw [Spelling.negative, hminus] at hsign
      cases hsign
  | large s cs hs hvalue =>
      obtain ⟨s', hs', -, hm'⟩ := Binary64.read?_eq_finite_iff.mp hfinite
      obtain rfl := hs.unique hs'
      have hsmall := s.decimal.isSome_magnitude?_iff.mp (hm' ▸ rfl)
      exact absurd hvalue (not_le.mpr hsmall)

end Command

/-! ### Settings -/

/-- What a user sets a time for. -/
inductive TimeSetting
  | exposure
  | period
deriving DecidableEq

namespace TimeSetting

def field : TimeSetting → InputField
  | .exposure => .exposure
  | .period => .period

def command : TimeSetting → Binary64.Magnitude → Command
  | .exposure => .setExposure
  | .period => .setPeriod

def read : TimeSetting → String → Except ValidationError Command
  | .exposure => Command.exposure
  | .period => Command.period

/-- Where the control server keeps the time. -/
def path : TimeSetting → String
  | .exposure => "config/count_time"
  | .period => "config/frame_time"

/-- Where the form is sent to. -/
def formPath : TimeSetting → String
  | .exposure => "/detector/exposure"
  | .period => "/detector/period"

def route : TimeSetting → Http.Route
  | .exposure => .exposure
  | .period => .period

theorem readsInput_read (setting : TimeSetting) (input : String) :
    Command.ReadsInput setting.field .notANumber Command.SpellsTime setting.command input
      (setting.read input) := by
  cases setting with
  | exposure => exact Command.readsInput_readField rfl (fun _ => Command.spellsTime_iff) _
  | period => exact Command.readsInput_readField rfl (fun _ => Command.spellsTime_iff) _

theorem calls_command (setting : TimeSetting) (paths : ApiPaths) (m : Binary64.Magnitude) :
    (setting.command m).calls paths =
      [⟨.put, "/api/" ++ paths.version ++ "/eiger/detector/api/" ++ paths.detectorApi ++ "/" ++
        setting.path, some (Json.ofBinary64 (.finite ⟨false, m⟩))⟩] := by
  have hpath : paths.detector setting.path = "/api/" ++ paths.version ++
      "/eiger/detector/api/" ++ paths.detectorApi ++ "/" ++ setting.path := by
    have hslash : "/eiger/detector/api/" = "/" ++ "eiger/detector/api/" := by decide
    simp only [ApiPaths.detector, ApiPaths.versioned, hslash, String.append_assoc]
  rw [← hpath]
  cases setting <;> rfl

/-- A form for a time submits what its field holds. -/
theorem ofRequest_eq_submit (setting : TimeSetting) {r : Http.Request} {form : Http.Form}
    (hpost : r.method = .post) (hpath : r.target.path = setting.formPath)
    (hform : r.form ["value"] = .ok form) :
    Http.Handler.ofRequest r = .ok (.submit (setting.read (form.value "value"))) := by
  have hroute : Http.Route.ofPath? r.target.path = some setting.route := by
    rw [hpath]
    cases setting <;> decide +kernel
  have hallows : setting.route.allows r.method = true := by
    rw [hpost]
    cases setting <;> rfl
  rw [Application.ofRequest_of_allows hroute hallows]
  cases setting <;> simp [route, Http.Handler.ofRoute, Http.Handler.single, hform, Except.map, read]

end TimeSetting

namespace Application

open Command

/-- The input of a form for a time either spells a number without a minus sign that is not too large,
and then one write is made, of a number that has no sign in JSON either and is never null, to the path
of the setting under the versions of the control server and of the detector; or it is refused, and
then nothing is sent and one alert says why. -/
theorem times_read_and_sent (a : Application) (setting : TimeSetting) (input : String) :
    let result := setting.read input
    let b := a.submit result
    let path := "/api/" ++ a.dashboard.apiVersion ++ "/eiger/detector/api/" ++
      a.dashboard.settings.detectorApi ++ "/" ++ setting.path
    ReadsInput setting.field .notANumber SpellsTime setting.command input result ∧
    ((∃ m, SpellsTime input m ∧ result = .ok (setting.command m) ∧
        let payload := Json.ofBinary64 (.finite ⟨false, m⟩)
        Sends a [⟨.put, path, some payload⟩] b ∧
          Binary64.read? (trim input).toList = some (.finite ⟨false, m⟩) ∧ payload ≠ .null ∧
          ∃ s, Json.Written.read? payload.text.toList = some (.number s) ∧ s.sign = none ∧
            s.decimal.magnitude? = some m) ∨
      ∃ error, (∀ m, ¬ SpellsTime input m) ∧ result = .error error ∧ Refuses a error b) ∧
    Trims input (trim input) ∧
    (NotATime (trim input).toList → result = .error (.notANumber setting.field input)) ∧
    (∀ s : Spelling, s.IsWritten (trim input).toList →
      ((∃ m, SpellsTime input m) ↔
        s.sign ≠ some '-' ∧ s.decimal.value < 2 ^ 1024 - 2 ^ 970)) ∧
    ∀ r form, r.method = .post → r.target.path = setting.formPath →
      r.form ["value"] = .ok form → form.value "value" = input → a.step (.serve r) = b := by
  intro result b path
  have hreads := setting.readsInput_read input
  refine ⟨hreads, ?_, Text.trims_trim input, fun hnone => ?_, fun s => exists_spellsTime_iff, ?_⟩
  · by_cases htime : ∃ m, SpellsTime input m
    · obtain ⟨m, hm⟩ := htime
      have hresult : result = .ok (setting.command m) := hreads.eq_ok hm
      refine .inl ⟨m, hm, hresult, ?_, ?_, nofun, Json.exists_written_magnitude m⟩
      · have hcalls : (setting.command m).calls a.dashboard.paths =
            [⟨.put, path, some (Json.ofBinary64 (.finite ⟨false, m⟩))⟩] :=
          setting.calls_command a.dashboard.paths m
        rw [← hcalls]
        simp only [b, hresult]
        exact sends_submit a (setting.command m)
      · exact readSeconds?_eq_some_iff.mp (spellsTime_iff.mp hm)
    · have hnone := not_exists.mp htime
      obtain ⟨error, hresult⟩ := hreads.exists_error hnone
      refine .inr ⟨error, hnone, hresult, ?_⟩
      simp only [b, result, hresult]
      exact refuses_submit a error
  · have hblank : ¬ AllBlank input.toList := by
      rw [← Text.trim_eq_empty_iff, ← String.toList_inj]
      exact hnone.ne_nil
    refine hreads.eq_refused hblank fun m hm => ?_
    rw [spellsTime_iff, hnone.readSeconds?_eq_none] at hm
    cases hm
  · rintro r form hpost hpath hform rfl
    have hrequest := setting.ofRequest_eq_submit hpost hpath hform
    simp only [step, serve, hrequest, perform]
    rfl

/-- A time with a sign and without a digit before its point, the greatest number of so many digits
that is a time and the next one, and two texts that only look like numbers without a minus sign or
are words. -/
theorem times_at_the_bound :
    let a := ofSettings {} {}
    (∃ m, Command.exposure "\u2003+.5E-1 " = .ok (.setExposure m) ∧
        (secondsBody m).text = "0.05" ∧
        (a.submit (Command.exposure "\u2003+.5E-1 ")).calls.toList =
          [⟨.put, "/api/0.1/eiger/detector/api/1.6.0/config/count_time", some (secondsBody m)⟩] ∧
        (a.submit (Command.period "\u2003+.5E-1 ")).calls.toList =
          [⟨.put, "/api/0.1/eiger/detector/api/1.6.0/config/frame_time", some (secondsBody m)⟩]) ∧
      (∃ m, Command.exposure "1.7976931348623158e308" = .ok (.setExposure m)) ∧
      Command.exposure "1.7976931348623159e308" =
        .error (.notANumber .exposure "1.7976931348623159e308") ∧
      Command.exposure "+iNF" = .error (.notANumber .exposure "+iNF") ∧
      Command.period " -0" = .error (.notANumber .period " -0") ∧
      (a.submit (Command.period " -0")).calls = #[] ∧
      (a.submit (Command.period " -0")).alerts.pending =
        ["FAILED: period must be a non-negative number, got \" -0\""] := by
  intro a
  have hreads (input : String) := (times_read_and_sent a .exposure input).1
  have hpoint : (readSeconds? (trim "\u2003+.5E-1 ").toList).map (fun m => (secondsBody m).text) =
      some "0.05" := by decide +kernel
  have hgreatest : (readSeconds? (trim "1.7976931348623158e308").toList).isSome = true := by
    decide +kernel
  have hlarge (m : Binary64.Magnitude) : ¬ SpellsTime "1.7976931348623159e308" m := by
    have hread : readSeconds? (trim "1.7976931348623159e308").toList = none := by decide +kernel
    rw [spellsTime_iff, hread]
    exact nofun
  have hdigit : ¬ AllBlank "1.7976931348623159e308".toList := fun h =>
    absurd (h '1' (by decide)) (by decide)
  obtain ⟨m, hm, htext⟩ := Option.map_eq_some_iff.mp hpoint
  obtain ⟨n, hn⟩ := Option.isSome_iff_exists.mp hgreatest
  have hsent (setting : TimeSetting) {read : String → Except ValidationError Command}
      {path : String} (hread : setting.read = read)
      (hpath : "/api/0.1/eiger/detector/api/1.6.0/" ++ setting.path = path) :
      (a.submit (read "\u2003+.5E-1 ")).calls.toList =
        [⟨.put, path, some (secondsBody m)⟩] := by
    subst hread
    obtain ⟨-, htime, -⟩ := times_read_and_sent a setting "\u2003+.5E-1 "
    rcases htime with ⟨m', hm', -, hsends, -⟩ | ⟨-, hnone, -⟩
    · obtain rfl : m = m' := Option.some.inj (hm.symm.trans (spellsTime_iff.mp hm'))
      have hversions : "/api/" ++ a.dashboard.apiVersion ++ "/eiger/detector/api/" ++
          a.dashboard.settings.detectorApi ++ "/" = "/api/0.1/eiger/detector/api/1.6.0/" := by
        decide
      rw [hversions, hpath] at hsends
      exact hsends.calls
    · exact absurd (spellsTime_iff.mpr hm) (hnone m)
  obtain ⟨-, -, -, hword, -⟩ := times_read_and_sent a .exposure "+iNF"
  obtain ⟨-, hzero, -, hminus, -⟩ := times_read_and_sent a .period " -0"
  have hrefused := hminus (.minus ['0'])
  have hrefuses : Refuses a (.notANumber .period " -0") (a.submit (Command.period " -0")) := by
    rcases hzero with ⟨_, -, haccepted, -⟩ | ⟨error, -, herror, hrefuses⟩
    · cases hrefused.symm.trans haccepted
    · obtain rfl := Except.error.inj (herror.symm.trans hrefused)
      exact hrefuses
  have hmessage : "FAILED: " ++ (ValidationError.notANumber .period " -0").message =
      "FAILED: period must be a non-negative number, got \" -0\"" := by decide +kernel
  have hpending := hrefuses.alerts.pending_eq
  rw [hmessage] at hpending
  exact ⟨⟨m, (hreads _).eq_ok (spellsTime_iff.mpr hm), htext,
      hsent .exposure rfl (by decide), hsent .period rfl (by decide)⟩,
    ⟨n, (hreads _).eq_ok (spellsTime_iff.mpr hn)⟩, (hreads _).eq_refused hdigit hlarge,
    hword (.word (some '+') (by simp) ['i', 'N', 'F'] (by decide)), hrefused, hrefuses.calls,
    hpending⟩

end Application

end DetectorDashboard
