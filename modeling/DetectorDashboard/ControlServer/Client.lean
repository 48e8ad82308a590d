import DetectorDashboard.Application.Basic

/-!
The requests that are sent to the control server. Slashes at the end of the base address do not
count, since every path begins with one.
-/

namespace DetectorDashboard.ControlServer

structure Client where
  baseUrl : String
deriving DecidableEq

/-- A request with the headers that matter. The `url` is the text of the address as it has been put
together; which server is asked, and for which target, is what `Address.read?` makes of it. -/
structure Request where
  method : CallMethod
  url : String
  accept : String
  contentType : Option String
  body : String
deriving DecidableEq

namespace Client

def ofBaseUrl (url : String) : Client where
  baseUrl := String.ofList (url.toList.reverse.dropWhile (· = '/')).reverse

def url (c : Client) (path : String) : String :=
  c.baseUrl ++ path

/-- A call without a payload has no content type. -/
def request (c : Client) (call : Call) : Request where
  method := call.method
  url := c.url call.path
  accept := "application/json"
  contentType := call.body.map fun _ => "application/json"
  body := (call.body.map Json.text).getD ""

end Client

end DetectorDashboard.ControlServer
