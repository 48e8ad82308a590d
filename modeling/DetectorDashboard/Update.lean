import DetectorDashboard.Endpoint
import DetectorDashboard.Json.Printer
import DetectorDashboard.View

/-!
Changes of the dashboard, as they are announced to whoever follows it.
-/

namespace DetectorDashboard

inductive Update
  /-- The answer to a request was rendered. -/
  | rendered (endpoint : Endpoint) (seq : Nat)
  /-- A panel was entered, perhaps again. -/
  | navigated (panel : Panel) (title : String)
  | alert (message : String)
deriving DecidableEq

namespace Update

def name : Update → String
  | .rendered .. => "rendered"
  | .navigated .. => "navigated"
  | .alert _ => "alert"

def fields : Update → List (String × Json)
  | .rendered endpoint seq =>
    [("target", .string endpoint.label), ("seq", .number (.count (UInt64.ofNat seq)))]
  | .navigated panel title => [("panel", .string panel.name), ("title", .string title)]
  | .alert message => [("message", .string message)]

def json (u : Update) : Json :=
  .object (("type", .string u.name) :: u.fields)

end Update

end DetectorDashboard
