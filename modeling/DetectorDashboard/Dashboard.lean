import DetectorDashboard.Render
import DetectorDashboard.SequenceGate
import DetectorDashboard.Status.Schema
import DetectorDashboard.View

/-!
The state of the dashboard: the page, the view, the version of the control server and a gate for
each endpoint.
-/

namespace DetectorDashboard

structure Settings where
  baseTitle : String := "Eiger"
  /-- The version of the control server until it is known. -/
  apiVersion : String := "0.1"
  detectorApi : String := "1.6.0"
  /-- The least number of rows in a unit table. -/
  tableRows : Nat := 4
deriving DecidableEq

structure Dashboard where
  settings : Settings
  apiVersion : String
  view : View
  page : Page
  gates : Endpoint → SequenceGate

/-- What is shown at one moment. -/
structure Snapshot where
  title : String
  panel : Panel
  apiVersion : String
  page : Page

namespace Dashboard

def ofSettings (settings : Settings) : Dashboard where
  settings := settings
  apiVersion := settings.apiVersion
  view := { baseTitle := settings.baseTitle }
  page := .empty
  gates _ := {}

def paths (d : Dashboard) : ApiPaths where
  version := d.apiVersion
  detectorApi := d.settings.detectorApi

def setGate (d : Dashboard) (endpoint : Endpoint) (gate : SequenceGate) : Dashboard :=
  { d with gates := fun e => if e = endpoint then gate else d.gates e }

/-- The number of a new request to an endpoint. -/
def issue (d : Dashboard) (endpoint : Endpoint) : Nat × Dashboard :=
  let (seq, gate) := (d.gates endpoint).issue
  (seq, d.setGate endpoint gate)

/-- The version of the control server once a response is known. -/
def versionAfter (d : Dashboard) : StatusResponse → String
  | .apiVersion version => version
  | _ => d.apiVersion

/-- The dashboard once the response to request `seq` is shown, unless a newer one has been. -/
def accept? (d : Dashboard) (now : Timestamp) (seq : Nat) (response : StatusResponse) :
    Option Dashboard :=
  ((d.gates response.endpoint).accept? seq).map fun gate =>
    { d.setGate response.endpoint gate with
      apiVersion := d.versionAfter response
      page := (d.page.render d.settings.tableRows response).touch now }

def navigate (d : Dashboard) (fragment : String) : Dashboard :=
  { d with view := d.view.navigate fragment }

def snapshot (d : Dashboard) : Snapshot where
  title := d.view.title
  panel := d.view.panel
  apiVersion := d.apiVersion
  page := d.page

end Dashboard

def Snapshot.json (s : Snapshot) : Json :=
  .object
    [ ("title", .string s.title),
      ("panel", .string s.panel.name),
      ("api_version", .string s.apiVersion),
      ("page", s.page.json) ]

end DetectorDashboard
