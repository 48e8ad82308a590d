import DetectorDashboard.Application.Jobs
import DetectorDashboard.Http.Assets
import DetectorDashboard.Http.Document
import DetectorDashboard.Http.EventStream
import DetectorDashboard.Http.Handler

/-!
The application as it answers requests over HTTP. A refused request changes nothing; the page shows
the pending alerts and takes them off the queue; links and forms are answered once the calls they
make have been.
-/

namespace DetectorDashboard.Application

/-- The page, with the alerts that have not been shown. -/
def servePage (a : Application) : Http.Response × Application :=
  let (alerts, drained) := a.drainAlerts
  let settings := a.dashboard.settings
  let document :=
    Http.document a.dashboard.snapshot alerts a.refreshSeconds settings.tableRows
  (.html (Html.render document), drained)

/-- Answers a request at once. -/
def respond (a : Application) (headOnly : Bool) (response : Http.Response) : Application :=
  a.complete (.responded (if headOnly then response.withoutBody else response))

def submit (a : Application) : Except ValidationError Command → Application
  | .ok command => a.dispatch command .redirect
  | .error e => (a.refuse e).startJob .redirect 0

/-- Does what a request asks for. Where only the head of the answer is wanted the same is done, but
the answer has no body, and that to a stream does not wait for its end. -/
def perform (a : Application) (headOnly : Bool) : Http.Handler → Application
  | .health => a.respond headOnly (.text 200 "OK")
  | .snapshot => a.respond headOnly (.json 200 a.dashboard.snapshot.json)
  | .updates =>
    if headOnly then a.respond headOnly .eventStream else a.startJob .stream 1
  | .index =>
    let (response, served) := a.servePage
    served.respond headOnly response
  | .navigate fragment => a.navigate fragment fun _ => .redirect
  | .submit input => a.submit input

def serve (a : Application) (r : Http.Request) : Application :=
  let headOnly := r.method == .head
  match Http.Handler.ofRequest r with
  | .error refusal => a.respond headOnly refusal.response
  | .ok handler => a.perform headOnly handler

/-- Answers a request where static files are served too. -/
def serveWithAssets (a : Application) (directory : Http.AssetDirectory) (r : Http.Request) :
    Application :=
  match Http.assetPath? r.target with
  | some path => a.respond (r.method == .head) (Http.serveAsset directory r path)
  | none => a.serve r

/-- A stream of the updates from now on. -/
def openStream (a : Application) : Http.EventStream :=
  .ofBus a.bus a.clock

def readStream (a : Application) (s : Http.EventStream) : List String × Http.EventStream :=
  s.read a.bus a.clock

end DetectorDashboard.Application
