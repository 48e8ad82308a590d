import DetectorDashboard.Command.Input
import DetectorDashboard.Http.Form
import DetectorDashboard.Http.Message

/-!
What a request asks for. The path selects a route, the method has to be one of the route's, and
what the request carries has to be readable; a request that fails any of these is refused, and
nothing else is done about it.
-/

namespace DetectorDashboard.Http

inductive Route
  | health
  | snapshot
  | updates
  | index
  | home
  /-- The part of the path that plays the role of a location fragment, still escaped. -/
  | view (rest : String)
  | exposure
  | period
  | images
  | writer
  | startWriting
  | stopWriting
  | action (segment : String)
deriving DecidableEq

/-- What is to be done. -/
inductive Handler
  | health
  | snapshot
  | updates
  | index
  | navigate (fragment : String)
  | submit (input : Except ValidationError Command)

/-- Why a request is refused. -/
inductive Refusal
  | notFound
  | methodNotAllowed (allow : String)
  /-- A part of the path is not UTF-8 once its escapes are resolved. -/
  | undecodable (parameter : String)
  | unknownAction (name : String)
  | notAForm
  | tooLong
  | repeatedField (name : String)
deriving DecidableEq

namespace Refusal

def response : Refusal → Response
  | .notFound => { status := 404 }
  | .methodNotAllowed allow => { status := 405, allow := some allow }
  | .undecodable parameter => .text 400 s!"Invalid URL: Invalid UTF-8 in `{parameter}`"
  | .unknownAction name =>
    .json 404 (.object [("error", .string s!"unknown detector command {Text.quoted name}")])
  | .notAForm =>
    .text 415 "Form requests must have `Content-Type: application/x-www-form-urlencoded`"
  | .tooLong => .text 413 "Failed to buffer the request body: length limit exceeded"
  | .repeatedField name =>
    .text 422 s!"Failed to deserialize form body: duplicate field `{name}`"

end Refusal

namespace Route

def fixed : List (String × Route) :=
  [ ("/health", .health),
    ("/api/page", .snapshot),
    ("/api/updates/stream", .updates),
    ("/", .index),
    ("/view", .home),
    ("/detector/exposure", .exposure),
    ("/detector/period", .period),
    ("/detector/nimages", .images),
    ("/processor/params", .writer),
    ("/processor/start", .startWriting),
    ("/processor/stop", .stopWriting) ]

/-- What follows `stem` in a path, if anything does. -/
def rest? (stem : String) (path : String) : Option String :=
  let rest := path.toList.drop stem.toList.length
  if stem.toList.isPrefixOf path.toList ∧ rest ≠ [] then some (String.ofList rest) else none

def actionOf? (path : String) : Option Route :=
  ((rest? "/detector/command/" path).filter fun s => '/' ∉ s.toList).map .action

def ofPath? (path : String) : Option Route :=
  (fixed.lookup path).or (((rest? "/view/" path).map .view).or (actionOf? path))

/-- Whether the route is there for forms; the others are there for reading. -/
def isForm : Route → Bool
  | .health | .snapshot | .updates | .index | .home | .view _ => false
  | _ => true

def allow (r : Route) : String :=
  if r.isForm then "POST" else "GET,HEAD"

def allows (r : Route) (m : Method) : Bool :=
  if r.isForm then m == .post else m == .get || m == .head

end Route

namespace Request

def formType : String := "application/x-www-form-urlencoded"

/-- Whether a header shows only visible characters, spaces and tabs. -/
def isVisible (header : String) : Bool :=
  header.toList.all fun c => c = '\t' || (' ' ≤ c && c ≤ '~')

/-- Whatever follows the name of the type does not matter, as long as it is visible. -/
def isForm (r : Request) : Bool :=
  r.contentType.any fun t => isVisible t && formType.toList.isPrefixOf t.toList

/-- The most that a form may hold, in bytes. -/
def longestForm : Nat := 2 * 1024 * 1024

/-- The form that a request carries, in which no field among `known` may be repeated. -/
def form (r : Request) (known : List String) : Except Refusal Form :=
  if r.isForm then
    if longestForm < r.body.bytes.length then .error .tooLong
    else
      let form := Form.ofBody r.body.bytes
      match form.repeated? known [] with
      | some name => .error (.repeatedField name)
      | none => .ok form
  else .error .notAForm

end Request

namespace Handler

/-- A text of the path with its escapes resolved. -/
def parameter (name : String) (escaped : String) : Except Refusal String :=
  match Text.Percent.strict? escaped with
  | some s => .ok s
  | none => .error (.undecodable name)

/-- A form with a single field. -/
def single (r : Request) (command : String → Except ValidationError Command) :
    Except Refusal Handler :=
  (r.form ["value"]).map fun form => .submit (command (form.value "value"))

def ofRoute (r : Request) : Route → Except Refusal Handler
  | .health => .ok .health
  | .snapshot => .ok .snapshot
  | .updates => .ok .updates
  | .index => .ok .index
  | .home => .ok (.navigate "")
  | .view rest => (parameter "path" rest).map fun path => .navigate ("#/" ++ path)
  | .exposure => single r Command.exposure
  | .period => single r Command.period
  | .images => single r Command.imageCount
  | .writer => (r.form ["frames", "path", "filename"]).map fun form =>
      .submit (Command.writer (form.value "frames") (form.value "path") (form.value "filename"))
  | .startWriting => .ok (.submit (.ok .startWriting))
  | .stopWriting => .ok (.submit (.ok .stopWriting))
  | .action segment => do
    let name ← parameter "action" segment
    match DetectorAction.ofName? name with
    | some action => .ok (.submit (.ok (.detector action)))
    | none => .error (.unknownAction name)

def ofRequest (r : Request) : Except Refusal Handler :=
  match Route.ofPath? r.target.path with
  | none => .error .notFound
  | some route =>
    if route.allows r.method then ofRoute r route else .error (.methodNotAllowed route.allow)

end Handler

end DetectorDashboard.Http
