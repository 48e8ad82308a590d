import DetectorDashboard.Proofs.FragmentEscape
import DetectorDashboard.Proofs.PanelMarks
import DetectorDashboard.Proofs.ShownAlerts
import DetectorDashboard.Proofs.SummaryRefresh

/-! The panel and the title of a run. Only navigations change the view, and each puts another view in
the place of the one before; so what is shown is what the last fragment leads to, whatever else
has happened, and the page says the same. -/

namespace DetectorDashboard

/-- The fragment that was navigated to last; the empty one leads to where a run begins. -/
def lastFragment (events : List Event) : String :=
  ((events.filterMap (·.navigation?)).getLast?.map (·.1)).getD ""

/-! ### The view that a fragment leads to -/

/-- A later navigation takes the place of the earlier ones. -/
theorem View.foldl_navigate {α : Type} (v : View) (visits : List (String × α)) :
    visits.foldl (fun v n => v.navigate n.1) v =
      (visits.getLast?.map fun n => v.navigate n.1).getD v := by
  induction visits generalizing v with
  | nil => rfl
  | cons n rest ih =>
      rw [List.foldl_cons, ih, List.getLast?_cons]
      cases rest.getLast? <;> simp [View.navigate_navigate]

/-- A run begins where the empty fragment leads to. -/
theorem View.navigate_empty (baseTitle : String) :
    View.navigate { baseTitle := baseTitle } "" = { baseTitle := baseTitle } := by
  have hhome : resolve "" = .home := by decide +kernel
  have hnone : namedPanel? "" = none := by decide +kernel
  rw [View.navigate, hhome, pageTitle_of_none (namedPanel?_eq_none_iff.mp hnone)]

namespace Application

/-- A run has come to the view of its last fragment. -/
theorem view_run_ofSettings (settings : Settings) (sizes : Sizes) (events : List Event) :
    ((ofSettings settings sizes).run events).dashboard.view =
      View.navigate { baseTitle := settings.baseTitle } (lastFragment events) := by
  have hstart : (ofSettings settings sizes).dashboard.view =
      { baseTitle := settings.baseTitle } := rfl
  rw [view_run, hstart, View.foldl_navigate, lastFragment]
  cases (events.filterMap (·.navigation?)).getLast? with
  | none => exact (View.navigate_empty settings.baseTitle).symm
  | some n => rfl

/-- The panel and the title are those of the last fragment: the panel that its first segment names
and a title with that name, or else the home panel and the title that the dashboard started from.
The page shows this panel and no other, marks its link and no other, and has this title. -/
theorem view_of_last_fragment (settings : Settings) (sizes : Sizes) (events : List Event) :
    let a := (ofSettings settings sizes).run events
    let fragment := lastFragment events
    let shown := a.dashboard.snapshot
    shown.panel = resolve fragment ∧
    (∀ panel : Panel, segment? fragment = some panel.name →
      shown.panel = panel ∧ shown.title = s!"{settings.baseTitle} ({panel.name})") ∧
    ((∀ panel : Panel, segment? fragment ≠ some panel.name) →
      shown.panel = .home ∧ shown.title = settings.baseTitle) ∧
    ∀ r, Http.Handler.ofRequest r = .ok .index → r.method ≠ .head →
      ∃ response, (a.step (.serve r)).responses = a.responses ++ [response] ∧
        ShowsPanel response.body.toList shown.panel shown.title := by
  intro a fragment shown
  have hview := view_run_ofSettings settings sizes events
  have hpanel : shown.panel = resolve fragment :=
    (congrArg View.panel hview).trans (View.panel_navigate _ fragment)
  have htitle : shown.title = pageTitle settings.baseTitle fragment :=
    (congrArg View.title hview).trans (View.title_navigate _ fragment)
  refine ⟨hpanel, fun panel hsegment => ?_, fun hnone => ?_, fun r hindex hmethod => ?_⟩
  · have hresolve : resolve fragment = panel := by
      rw [resolve, namedPanel?_eq_some_iff.mpr hsegment, Option.getD_some]
    exact ⟨hpanel.trans hresolve, htitle.trans (pageTitle_of_some hsegment _)⟩
  · have hresolve : resolve fragment = .home := by
      rw [resolve, namedPanel?_eq_none_iff.mpr hnone, Option.getD_none]
    exact ⟨hpanel.trans hresolve, htitle.trans (pageTitle_of_none hnone _)⟩
  · exact ⟨a.servePage.1, a.responses_step_index hindex hmethod, showsPanel_document ..⟩

/-- A link to a panel after another one was visited, and then a fragment that names none. -/
theorem view_after_unknown_fragment :
    let page : Http.Request := { method := .get, target := .ofText "/" }
    let link : Http.Request := { method := .get, target := .ofText "/view/fr%2Dview" }
    let visited : List Event := [.navigate "#/fp-view" fun _ => .redirect, .serve link]
    let left : List Event := visited ++ [.serve page, .navigate "#/fr-view-2" fun _ => .redirect]
    let shown (events : List Event) := ((ofSettings {} {}).run events).dashboard.snapshot
    segment? (lastFragment visited) = some Panel.receivers.name ∧
      (shown visited).panel = .receivers ∧ (shown visited).title = "Eiger (fr-view)" ∧
      (∀ panel : Panel, segment? (lastFragment left) ≠ some panel.name) ∧
      (shown left).panel = .home ∧ (shown left).title = "Eiger" ∧
      Http.Handler.ofRequest page = .ok .index ∧ page.method ≠ .head ∧
      ∃ response, (((ofSettings {} {}).run left).step (.serve page)).responses =
          ((ofSettings {} {}).run left).responses ++ [response] ∧
        ShowsPanel response.body.toList .home "Eiger" := by
  have hindex : Http.Handler.ofRequest { method := .get, target := .ofText "/" } = .ok .index := by
    rfl
  intro page link visited left shown
  have hvisited : segment? (lastFragment visited) = some Panel.receivers.name := by decide +kernel
  have hleft : ∀ panel : Panel, segment? (lastFragment left) ≠ some panel.name := by
    intro panel
    cases panel <;> decide +kernel
  have hmethod : page.method ≠ .head := by decide
  obtain ⟨-, hnamed, -⟩ := view_of_last_fragment {} {} visited
  obtain ⟨-, -, hunnamed, hserved⟩ := view_of_last_fragment {} {} left
  obtain ⟨hreceivers, hname⟩ := hnamed .receivers hvisited
  obtain ⟨hhome, htitle⟩ := hunnamed hleft
  have hpage := hserved page hindex hmethod
  rw [hhome, htitle] at hpage
  exact ⟨hvisited, hreceivers, hname, hleft, hhome, htitle, hindex, hmethod, hpage⟩

end Application

end DetectorDashboard
