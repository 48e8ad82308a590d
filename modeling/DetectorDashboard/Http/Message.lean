import DetectorDashboard.Json.Printer
import DetectorDashboard.Text.Utf8

/-!
Requests and responses of the dashboard's own HTTP surface.
-/

namespace DetectorDashboard.Http

inductive Method
  | get
  | head
  | post
  | other
deriving DecidableEq

/-- Where a request is directed. The origin, a scheme and a host, is there if the request gives a
full address; the query has its question mark. -/
structure Target where
  origin : String
  path : String
  query : String
deriving DecidableEq

/-- What a request carries; it need not be text. -/
structure Body where
  bytes : List UInt8 := []
deriving DecidableEq

def Body.ofText (s : String) : Body where
  bytes := Text.Utf8.encode s.toList

instance : Coe String Body where
  coe := Body.ofText

structure Request where
  method : Method
  target : Target
  contentType : Option String := none
  body : Body := {}

structure Response where
  status : Nat
  location : Option String := none
  contentType : Option String := none
  allow : Option String := none
  body : String := ""
deriving DecidableEq

namespace Method

def ofName (name : String) : Method :=
  if name = "GET" then .get
  else if name = "HEAD" then .head
  else if name = "POST" then .post
  else .other

end Method

namespace Target

def isSchemeChar (c : Char) : Bool :=
  c.isAlphanum || c = '+' || c = '-' || c = '.'

/-- The scheme of a full address, in lower case where it is one of the web, and what follows it and
its two slashes. -/
def scheme? (cs : List Char) : Option (List Char × List Char) :=
  match cs.dropWhile isSchemeChar with
  | ':' :: '/' :: '/' :: rest =>
    let scheme := cs.takeWhile isSchemeChar
    let lower := scheme.map Char.toLower
    some (if lower ∈ ["http".toList, "https".toList] then lower else scheme, rest)
  | _ => none

def endsHost (c : Char) : Bool :=
  c = '/' || c = '?' || c = '#'

/-- The path and the query that a text starts with; the fragment is dropped. -/
def ofPath (origin : String) (cs : List Char) : Target where
  origin := origin
  path := String.ofList (cs.takeWhile fun c => c ≠ '?' && c ≠ '#')
  query := String.ofList ((cs.takeWhile (· ≠ '#')).dropWhile (· ≠ '?'))

/-- A full address without a path has the path `/`. -/
def ofText (s : String) : Target :=
  match scheme? s.toList with
  | none => ofPath "" s.toList
  | some (scheme, rest) =>
    let host := rest.takeWhile fun c => !endsHost c
    let origin := String.ofList (scheme ++ "://".toList ++ host)
    let t := ofPath origin (rest.dropWhile fun c => !endsHost c)
    if t.path = "" then { t with path := "/" } else t

end Target

namespace Response

def text (status : Nat) (body : String) : Response :=
  { status := status, contentType := some "text/plain; charset=utf-8", body := body }

def html (body : String) : Response :=
  { status := 200, contentType := some "text/html; charset=utf-8", body := body }

def json (status : Nat) (body : Json) : Response :=
  { status := status, contentType := some "application/json", body := body.text }

def eventStream : Response :=
  { status := 200, contentType := some "text/event-stream" }

/-- After a form or a link, the browser goes back to the page. -/
def backToPage : Response :=
  { status := 303, location := some "/" }

/-- The answer to a request for the head alone. -/
def withoutBody (r : Response) : Response :=
  { r with body := "" }

end Response

end DetectorDashboard.Http
