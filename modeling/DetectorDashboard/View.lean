import DetectorDashboard.Text.Percent

/-!
Which panel of the dashboard is shown. The first segment of a location fragment, `#/panel/…`, with
its escapes resolved names the panel; where it names none, the home panel is shown.
-/

namespace DetectorDashboard

inductive Panel
  | home
  | detector
  | receivers
  | processors
deriving DecidableEq

namespace Panel

def all : List Panel :=
  [.home, .detector, .receivers, .processors]

def name : Panel → String
  | .home => "home-view"
  | .detector => "detector-view"
  | .receivers => "fr-view"
  | .processors => "fp-view"

/-- The text of the link to the panel. -/
def label : Panel → String
  | .home => "Home"
  | .detector => "Detector"
  | .receivers => "Frame Receivers"
  | .processors => "Frame Processors"

def ofName? (name : String) : Option Panel :=
  all.find? (·.name == name)

/-- Whoever enters the home panel sees the summary of the server afresh. -/
def refreshesSummary (p : Panel) : Bool :=
  p == .home

theorem ofName?_name (p : Panel) : ofName? p.name = some p := by
  cases p <;> decide

theorem ofName?_eq_some_iff {name : String} {p : Panel} :
    ofName? name = some p ↔ name = p.name := by
  constructor
  · intro h
    have hname := List.find?_some h
    exact (beq_iff_eq.mp hname).symm
  · rintro rfl
    exact ofName?_name p

end Panel

/-- The text without its first character, if that is `c`. -/
def dropLeading (c : Char) : List Char → List Char
  | [] => []
  | d :: rest => if d = c then rest else d :: rest

/-- The first segment of a fragment, unless that is empty. -/
def segment? (fragment : String) : Option String :=
  let path := dropLeading '/' (dropLeading '#' (Text.Percent.repaired fragment).toList)
  let first := path.takeWhile (· ≠ '/')
  if first = [] then none else some (String.ofList first)

/-- The panel that a fragment names, if it names one. -/
def namedPanel? (fragment : String) : Option Panel :=
  (segment? fragment).bind Panel.ofName?

/-- The panel that a fragment leads to. -/
def resolve (fragment : String) : Panel :=
  (namedPanel? fragment).getD .home

theorem namedPanel?_eq_some_iff {fragment : String} {p : Panel} :
    namedPanel? fragment = some p ↔ segment? fragment = some p.name := by
  rw [namedPanel?, Option.bind_eq_some_iff]
  constructor
  · rintro ⟨name, hsegment, hname⟩
    rw [hsegment, Panel.ofName?_eq_some_iff.mp hname]
  · exact fun hsegment => ⟨p.name, hsegment, Panel.ofName?_name p⟩

theorem namedPanel?_eq_none_iff {fragment : String} :
    namedPanel? fragment = none ↔ ∀ p : Panel, segment? fragment ≠ some p.name := by
  simp only [Option.eq_none_iff_forall_ne_some, ne_eq, namedPanel?_eq_some_iff]

/-- The title of the page for a fragment. A panel that is asked for by its name is named in it. -/
def pageTitle (baseTitle fragment : String) : String :=
  match (segment? fragment).filter fun segment => (Panel.ofName? segment).isSome with
  | some segment => s!"{baseTitle} ({segment})"
  | none => baseTitle

theorem pageTitle_of_some {fragment : String} {p : Panel} (h : segment? fragment = some p.name)
    (baseTitle : String) : pageTitle baseTitle fragment = s!"{baseTitle} ({p.name})" := by
  simp only [pageTitle, h, Option.filter_some, Panel.ofName?_name, Option.isSome_some, if_true]

theorem pageTitle_of_none {fragment : String} (h : ∀ p : Panel, segment? fragment ≠ some p.name)
    (baseTitle : String) : pageTitle baseTitle fragment = baseTitle := by
  have hnone : (segment? fragment).filter (fun segment => (Panel.ofName? segment).isSome) =
      none := by
    rw [Option.filter_eq_none_iff]
    intro segment hsegment hname
    obtain ⟨p, hp⟩ := Option.isSome_iff_exists.mp hname
    exact h p (hsegment.trans (congrArg some (Panel.ofName?_eq_some_iff.mp hp)))
  simp only [pageTitle, hnone]

/-- A panel's name makes a difference to the title. -/
theorem pageTitle_eq_self_iff (baseTitle : String) {fragment : String} :
    pageTitle baseTitle fragment = baseTitle ↔ namedPanel? fragment = none := by
  constructor
  · intro htitle
    rw [Option.eq_none_iff_forall_ne_some]
    intro p hp
    rw [pageTitle_of_some (namedPanel?_eq_some_iff.mp hp)] at htitle
    have hlength := congrArg String.length htitle
    simp only [toString, String.length_append] at hlength
    have hopen : " (".length = 2 := by decide
    omega
  · exact fun hnone => pageTitle_of_none (namedPanel?_eq_none_iff.mp hnone) baseTitle

/-- Fragments that name the same panel, or none, have the same title. -/
theorem pageTitle_congr {fragment other : String} (h : namedPanel? fragment = namedPanel? other)
    (baseTitle : String) : pageTitle baseTitle fragment = pageTitle baseTitle other := by
  cases hpanel : namedPanel? other with
  | some p =>
      rw [pageTitle_of_some (namedPanel?_eq_some_iff.mp (h.trans hpanel)),
        pageTitle_of_some (namedPanel?_eq_some_iff.mp hpanel)]
  | none =>
      rw [pageTitle_of_none (namedPanel?_eq_none_iff.mp (h.trans hpanel)),
        pageTitle_of_none (namedPanel?_eq_none_iff.mp hpanel)]

structure Transition where
  before : Panel
  after : Panel
deriving DecidableEq

/-- The panel on show, the title of the page and the title that the dashboard starts from. -/
structure View where
  baseTitle : String
  panel : Panel := .home
  title : String := baseTitle
deriving DecidableEq

namespace View

def navigate (v : View) (fragment : String) : View :=
  { v with
    panel := resolve fragment
    title := pageTitle v.baseTitle fragment }

theorem baseTitle_navigate (v : View) (fragment : String) :
    (v.navigate fragment).baseTitle = v.baseTitle := by
  rw [navigate]

theorem panel_navigate (v : View) (fragment : String) :
    (v.navigate fragment).panel = resolve fragment := by
  rw [navigate]

theorem title_navigate (v : View) (fragment : String) :
    (v.navigate fragment).title = pageTitle v.baseTitle fragment := by
  rw [navigate]

/-- Fragments that name the same panel, or none, lead to the same view. -/
theorem navigate_congr {fragment other : String} (h : namedPanel? fragment = namedPanel? other)
    (v : View) : v.navigate fragment = v.navigate other := by
  have hpanel : resolve fragment = resolve other := congrArg (·.getD .home) h
  rw [navigate, navigate, hpanel, pageTitle_congr h]

/-- A navigation does not look at what is shown before it. -/
theorem navigate_navigate (v : View) (fragment fragment' : String) :
    (v.navigate fragment).navigate fragment' = v.navigate fragment' := by
  rw [navigate, navigate, navigate]

end View

end DetectorDashboard
