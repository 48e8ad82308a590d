import DetectorDashboard.UnitTable

/-!
The rendering of a status response into the page: each endpoint has cells of its own, and a
response replaces all of them.
-/

namespace DetectorDashboard

namespace CellId

def apiVersion : String := "api-version"
def adapters : String := "api-adapters"
def exposure : String := "get-exposure"
def period : String := "get-period"
def images : String := "get-nimages"
def complete : String := "get-acquire"
def state : String := "get-state"

end CellId

/-- A time to the nearest thousandth of a second, a half going away from zero. -/
def roundedSeconds (x : Binary64) : String :=
  Layout.plain.text ((x.scale 1000 1).round.scale 1 1000)

namespace Page

def render (p : Page) (tableRows : Nat) : StatusResponse → Page
  | .apiVersion version => p.set CellId.apiVersion (.text version)
  | .adapters names => p.set CellId.adapters (.text (", ".intercalate names))
  | .detectorConfig config =>
    p.setAll
      [ (CellId.exposure, .text (roundedSeconds config.exposure)),
        (CellId.period, .text (roundedSeconds config.period)),
        (CellId.images, .text config.images.text) ]
  | .detectorStatus status =>
    p.setAll
      [ (CellId.complete, .indicator (.healthy status.complete)),
        (CellId.state, (status.state.map Cell.text).getD .empty) ]
  | .receivers units => (p.renderUnits .receiver units tableRows).2
  | .processors units => (p.renderUnits .processor units tableRows).2

end Page

end DetectorDashboard
