import DetectorDashboard.ControlServer.ErrorText
import DetectorDashboard.Failure

/-!
What an answer of the control server amounts to. A success carries a JSON text or nothing; every
other status is a refusal, with the text the server gives for it or else the status itself.
-/

namespace DetectorDashboard.ControlServer

/-- A response that has come through whole. -/
structure Response where
  status : Nat
  body : List UInt8
deriving DecidableEq

namespace Response

def isSuccess (r : Response) : Bool :=
  200 ≤ r.status && r.status < 300

def json? (body : List UInt8) : Option Json :=
  (Text.Utf8.decode? body).bind fun cs => Json.read? (String.ofList cs)

def content (body : List UInt8) : Except Failure Json :=
  if body = [] then .ok .null
  else match json? body with
    | some v => .ok v
    | none => .error (.transport "response body is not JSON")

def refusal (r : Response) : String :=
  (ErrorText.ofBody? r.body).getD ("HTTP " ++ Text.decimal r.status)

def reply (r : Response) : Except Failure Json :=
  if r.isSuccess then content r.body else .error (.rejected r.refusal)

/-- What comes of a response that announces `missing` more bytes than it has. The statuses 204 and
304 have no body, nor has 101, after which the connection is used for something else; any other
status below 200 announces a response that does not come. -/
def received? (status : Nat) (body : List UInt8) (missing : Nat) : Option Response :=
  if status < 100 ∨ 999 < status then none
  else if status = 101 ∨ status = 204 ∨ status = 304 then some ⟨status, []⟩
  else if status < 200 then none
  else if 0 < missing then none
  else some ⟨status, body⟩

end Response

/-- The reply to a request; where no response came through, the failure names the address. -/
def reply (url : String) (response? : Option Response) : Except Failure Json :=
  match response? with
  | none => .error (.transport s!"request to {url} failed")
  | some response => response.reply

end DetectorDashboard.ControlServer
