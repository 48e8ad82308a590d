import DetectorDashboard.Command.Input
import DetectorDashboard.Status.Schema

/-!
Everything that can go wrong with a request to the control server, and what the user is told.
-/

namespace DetectorDashboard

inductive Failure
  /-- No answer came, or none that can be read. -/
  | transport (message : String)
  /-- The server refused, for the reason it gives. -/
  | rejected (message : String)
  | schema (error : SchemaError)
  | validation (error : ValidationError)

namespace Failure

/-- The kind of failure; a refusal speaks for itself. -/
def summary : Failure → String
  | .transport _ => "transport error"
  | .rejected message => message
  | .schema _ => "schema violation"
  | .validation _ => "invalid input"

def userMessage : Failure → String
  | .transport message => message
  | .rejected message => message
  | .schema error => error.message
  | .validation error => error.message

/-- The text of the alert that a failed command raises. -/
def alert (f : Failure) : String :=
  "FAILED: " ++ f.userMessage

end Failure

end DetectorDashboard
