import DetectorDashboard.Proofs.Effect
import DetectorDashboard.Proofs.Utf8

/-! Links to a view. The path of a link is meant as a location fragment, but its escapes are resolved
twice: where the request is read, and again where the fragment is. Whatever panel a path names after
the first time it names after the second, so that a link and its fragment part ways only where the
second time makes a path that names no panel into one that does. -/

namespace DetectorDashboard

namespace Text.Percent

theorem decode_cons {b : UInt8} (h : b ≠ 0x25) (rest : List UInt8) :
    decode (b :: rest) = b :: decode rest := by
  rw [decode]
  intro high low rest' hb
  exact absurd hb h

/-- Bytes without a percent sign stand for themselves. -/
theorem decode_append {plain : List UInt8} (h : 0x25 ∉ plain) (rest : List UInt8) :
    decode (plain ++ rest) = plain ++ decode rest := by
  induction plain with
  | nil => rfl
  | cons b plain ih =>
      have hb : b ≠ 0x25 := fun heq => h (heq ▸ List.mem_cons_self)
      have hplain : 0x25 ∉ plain := fun hmem => h (List.mem_cons_of_mem b hmem)
      rw [List.cons_append, decode_cons hb, ih hplain, List.cons_append]

/-- The bytes of a text that stand before other bytes are not repaired, whatever these are. -/
theorem repaired_of_bytesOf_append {escaped s t : String}
    (h : bytesOf escaped = Utf8.encode s.toList ++ bytesOf t) :
    repaired escaped = s ++ repaired t := by
  have hrepair : Utf8.repair (Utf8.encode s.toList ++ bytesOf t) =
      s.toList ++ Utf8.repair (bytesOf t) := by
    simp [Utf8.repair, Utf8.scan_encode]
  rw [repaired, h, hrepair, String.ofList_append, String.ofList_toList, repaired]

theorem repaired_append {plain : String} (h : 0x25 ∉ Utf8.encode plain.toList) (t : String) :
    repaired (plain ++ t) = plain ++ repaired t := by
  apply repaired_of_bytesOf_append
  rw [bytesOf, String.toList_append, Utf8.encode_append, decode_append h, bytesOf]

/-- Where the escapes spell UTF-8 there is nothing to repair. -/
theorem repaired_of_strict? {escaped s : String} (h : strict? escaped = some s) :
    repaired escaped = s := by
  obtain ⟨cs, hcs, rfl⟩ := Option.map_eq_some_iff.mp h
  rw [repaired, Utf8.repair_of_decode? hcs]

/-- A text without escapes stands for itself. -/
theorem repaired_of_bytesOf {s : String} (h : bytesOf s = Utf8.encode s.toList) :
    repaired s = s := by
  rw [repaired, h, Utf8.repair_encode, String.ofList_toList]

end Text.Percent

/-! ### The panel that a path names -/

/-- The panel that the first segment of a path names, if it names one. -/
def panelOfPath? (path : String) : Option Panel :=
  Panel.ofName? (String.ofList (path.toList.takeWhile (· ≠ '/')))

/-- The fragment of a path names what the path names once its escapes are resolved. -/
theorem namedPanel?_link (path : String) :
    namedPanel? ("#/" ++ path) = panelOfPath? (Text.Percent.repaired path) := by
  have hplain : 0x25 ∉ Text.Utf8.encode "#/".toList := by decide
  have hpath : dropLeading '/' (dropLeading '#' (Text.Percent.repaired ("#/" ++ path)).toList) =
      (Text.Percent.repaired path).toList := by
    rw [Text.Percent.repaired_append hplain, String.toList_append]
    rfl
  simp only [namedPanel?, segment?, hpath, panelOfPath?]
  split
  · rename_i hempty
    rw [hempty, Option.bind_none]
    decide
  · rw [Option.bind_some]

/-- What comes after the first segment of a path is nothing, or begins with a slash; so does what it
escapes. -/
theorem takeWhile_repaired_rest {rest : String} (h : ∀ c ∈ rest.toList.head?, c = '/') :
    (Text.Percent.repaired rest).toList.takeWhile (· ≠ '/') = [] := by
  cases hrest : rest.toList with
  | nil =>
      obtain rfl : rest = "" := String.toList_eq_nil_iff.mp hrest
      decide
  | cons c cs =>
      obtain rfl : c = '/' := h c (by simp [hrest])
      have hslash : 0x25 ∉ Text.Utf8.encode "/".toList := by decide
      have heq : rest = "/" ++ String.ofList cs := by
        have hcons : String.ofList (['/'] ++ cs) = "/" ++ String.ofList cs := String.ofList_append
        rw [← hcons, List.singleton_append, ← hrest, String.ofList_toList]
      rw [heq, Text.Percent.repaired_append hslash, String.toList_append]
      rfl

/-- A path that names a panel still names it when escapes in it are resolved. -/
theorem panelOfPath?_repaired {path : String} {panel : Panel}
    (h : panelOfPath? path = some panel) :
    panelOfPath? (Text.Percent.repaired path) = some panel := by
  have hname := congrArg String.toList (Panel.ofName?_eq_some_iff.mp h)
  rw [String.toList_ofList] at hname
  have hplain : 0x25 ∉ Text.Utf8.encode panel.name.toList := by cases panel <;> decide
  have hall : panel.name.toList.all (· ≠ '/') = true := by cases panel <;> decide
  have hslash := List.all_eq_true.mp hall
  let rest := String.ofList (path.toList.dropWhile (· ≠ '/'))
  have hpath : path = panel.name ++ rest := by
    rw [← String.ofList_toList (s := path), ← List.takeWhile_append_dropWhile (p := (· ≠ '/'))
      (l := path.toList), hname, String.ofList_append, String.ofList_toList]
  have hrest : (Text.Percent.repaired rest).toList.takeWhile (· ≠ '/') = [] := by
    apply takeWhile_repaired_rest
    intro c hc
    rw [String.toList_ofList] at hc
    have hnot := List.head?_dropWhile_not (· ≠ '/') path.toList
    rw [Option.mem_def.mp hc] at hnot
    simpa using hnot
  rw [panelOfPath?, hpath, Text.Percent.repaired_append hplain, String.toList_append,
    List.takeWhile_append_of_pos hslash, hrest, List.append_nil, String.ofList_toList,
    Panel.ofName?_name]

/-! ### Following a link -/

namespace Http

/-- A link to a view asks for the panel of its path, read once. -/
theorem ofRequest_link {r : Request} {path decoded : String} (hmethod : r.method = .get)
    (hpath : r.target.path = "/view/" ++ path) (hne : path ≠ "")
    (hdecoded : Text.Percent.strict? path = some decoded) :
    Handler.ofRequest r = .ok (.navigate ("#/" ++ decoded)) := by
  have hfixed : Route.fixed.lookup ("/view/" ++ path) = none := by
    rw [List.lookup_eq_none_iff]
    intro route hroute
    have hother : ∀ route ∈ Route.fixed, ¬ "/view/".toList <+: route.1.toList := by decide
    rw [bne_iff_ne]
    intro heq
    apply hother route hroute
    rw [← heq, String.toList_append]
    exact List.prefix_append _ _
  have hrest : Route.rest? "/view/" ("/view/" ++ path) = some path := by
    have hpath' : path.toList ≠ [] := fun h => hne (String.toList_eq_nil_iff.mp h)
    simp [Route.rest?, hpath']
  have hroute : Route.ofPath? r.target.path = some (.view path) := by
    rw [Route.ofPath?, hpath, hfixed, hrest]
    rfl
  have hallows : (Route.view path).allows r.method = true := by
    rw [hmethod]
    rfl
  simp only [Handler.ofRequest, hroute, hallows, if_true, Handler.ofRoute, Handler.parameter,
    hdecoded]
  rfl

end Http

namespace Application

theorem step_link (a : Application) {r : Http.Request} {path decoded : String}
    (hmethod : r.method = .get) (hpath : r.target.path = "/view/" ++ path) (hne : path ≠ "")
    (hdecoded : Text.Percent.strict? path = some decoded) :
    a.step (.serve r) = a.step (.navigate ("#/" ++ decoded) fun _ => .redirect) := by
  simp only [step, serve, Http.ofRequest_link hmethod hpath hne hdecoded, perform]

/-- Fragments that name the same panel lead to the same state. -/
theorem step_navigate_congr (a : Application) {fragment other : String} (goal : Transition → Goal)
    (h : namedPanel? fragment = namedPanel? other) :
    a.step (.navigate fragment goal) = a.step (.navigate other goal) := by
  have henter : a.enter fragment = a.enter other := by
    simp only [enter, Dashboard.navigate, View.navigate_congr h]
  simp only [step, navigate, henter]

/-- After a navigation the view is the one that the fragment leads to. -/
theorem view_step_navigate (a : Application) (fragment : String) (goal : Transition → Goal) :
    (a.step (.navigate fragment goal)).dashboard.view = a.dashboard.view.navigate fragment := by
  refine step_of_enactAll (P := fun b => b.dashboard.view = a.dashboard.view.navigate fragment)
    (fun _ => Iff.rfl) ?_
  have hentered : (a.enter fragment).2.dashboard.view = a.dashboard.view.navigate fragment := by
    simp only [enter, publish, Dashboard.navigate]
  rw [effects, navigationEffects, enactAll_cons]
  refine enactAll_induction (P := fun b => b.dashboard.view = a.dashboard.view.navigate fragment)
    _ ?_ hentered
  intro effect heffect b hb
  split at heffect
  · obtain ⟨endpoint, -, rfl⟩ := List.mem_map.mp heffect
    exact hb
  · cases heffect

/-- A link to a view does what its path, read once, does as a fragment. That is what the path does as
it stands, unless it names a panel only when it is read a second time. -/
theorem view_link_eq_fragment (a : Application) (r : Http.Request) (path decoded : String)
    (hmethod : r.method = .get) (hpath : r.target.path = "/view/" ++ path) (hne : path ≠ "")
    (hdecoded : Text.Percent.strict? path = some decoded) :
    a.step (.serve r) = a.step (.navigate ("#/" ++ decoded) fun _ => .redirect) ∧
      (a.step (.serve r) = a.step (.navigate ("#/" ++ path) fun _ => .redirect) ↔
        (namedPanel? ("#/" ++ path) = none → namedPanel? ("#/" ++ decoded) = none)) ∧
      (Text.Percent.bytesOf decoded = Text.Utf8.encode decoded.toList →
        a.step (.serve r) = a.step (.navigate ("#/" ++ path) fun _ => .redirect)) := by
  have hserve := a.step_link hmethod hpath hne hdecoded
  have honce : namedPanel? ("#/" ++ path) = panelOfPath? decoded := by
    rw [namedPanel?_link, Text.Percent.repaired_of_strict? hdecoded]
  have htwice : namedPanel? ("#/" ++ decoded) = panelOfPath? (Text.Percent.repaired decoded) :=
    namedPanel?_link decoded
  have hsame (h : namedPanel? ("#/" ++ decoded) = namedPanel? ("#/" ++ path)) :
      a.step (.serve r) = a.step (.navigate ("#/" ++ path) fun _ => .redirect) :=
    hserve.trans (a.step_navigate_congr _ h)
  refine ⟨hserve, ⟨fun heq hnone => ?_, fun hnone => ?_⟩, fun hplain => ?_⟩
  · have htitle := congrArg (·.dashboard.view.title) (hserve.symm.trans heq)
    simp only [view_step_navigate, View.title_navigate] at htitle
    rw [← pageTitle_eq_self_iff a.dashboard.view.baseTitle] at hnone ⊢
    exact htitle.trans hnone
  · apply hsame
    cases hpanel : panelOfPath? decoded with
    | none => rw [hnone (honce.trans hpanel), honce, hpanel]
    | some panel => rw [htwice, panelOfPath?_repaired hpanel, honce, hpanel]
  · apply hsame
    rw [htwice, Text.Percent.repaired_of_bytesOf hplain, honce]

/-- A link with an escape in its path and a segment after the panel. -/
theorem view_link_of_escaped_path :
    let r : Http.Request := { method := .get, target := .ofText "/view/fr%2Dview/100%25" }
    let a := ofSettings {} {}
    r.method = .get ∧ r.target.path = "/view/" ++ "fr%2Dview/100%25" ∧
      Text.Percent.strict? "fr%2Dview/100%25" = some "fr-view/100%" ∧
      a.step (.serve r) = a.step (.navigate "#/fr%2Dview/100%25" fun _ => .redirect) := by
  have hpath : (Http.Target.ofText "/view/fr%2Dview/100%25").path =
      "/view/" ++ "fr%2Dview/100%25" := by decide +kernel
  have hdecoded : Text.Percent.strict? "fr%2Dview/100%25" = some "fr-view/100%" := by
    decide +kernel
  have hplain : Text.Percent.bytesOf "fr-view/100%" = Text.Utf8.encode "fr-view/100%".toList := by
    decide +kernel
  intro r a
  obtain ⟨-, -, hsame⟩ := view_link_eq_fragment a r _ _ rfl hpath (by decide) hdecoded
  exact ⟨rfl, hpath, hdecoded, hsame hplain⟩

/-- An escaped percent sign is resolved by the request, and then starts an escape of its own. -/
theorem view_link_decodes_twice :
    let r : Http.Request := { method := .get, target := .ofText "/view/%2566r-view" }
    let a := ofSettings {} {}
    r.target.path = "/view/" ++ "%2566r-view" ∧
      Text.Percent.strict? "%2566r-view" = some "%66r-view" ∧
      resolve ("#/" ++ "%2566r-view") = .home ∧
      (a.step (.serve r)).dashboard.view.panel = .receivers ∧
      a.step (.serve r) ≠ a.step (.navigate ("#/" ++ "%2566r-view") fun _ => .redirect) := by
  have hpath : (Http.Target.ofText "/view/%2566r-view").path = "/view/" ++ "%2566r-view" := by
    decide +kernel
  have hdecoded : Text.Percent.strict? "%2566r-view" = some "%66r-view" := by decide +kernel
  have honce : resolve ("#/" ++ "%2566r-view") = .home := by decide +kernel
  have htwice : resolve ("#/" ++ "%66r-view") = .receivers := by decide +kernel
  intro r a
  have hpanel : (a.step (.serve r)).dashboard.view.panel = .receivers := by
    rw [a.step_link rfl hpath (by decide) hdecoded, view_step_navigate, View.panel_navigate, htwice]
  refine ⟨hpath, hdecoded, honce, hpanel, fun heq => ?_⟩
  rw [heq, view_step_navigate, View.panel_navigate, honce] at hpanel
  cases hpanel

end Application

end DetectorDashboard
