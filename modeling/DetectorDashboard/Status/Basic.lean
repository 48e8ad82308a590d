import DetectorDashboard.Endpoint
import DetectorDashboard.Json.Number

/-!
What the status endpoints report, as far as the dashboard shows it.
-/

namespace DetectorDashboard

/-- Times are in seconds. -/
structure DetectorConfig where
  exposure : Binary64
  period : Binary64
  images : Json.Number

/-- Older detectors do not report their state. -/
structure DetectorStatus where
  complete : Bool
  state : Option String
deriving DecidableEq

/-- A connected frame receiver: how far its configuration has come, its buffers and its frames. -/
structure Receiver where
  bufferManager : Bool
  receiveThread : Bool
  decoder : Bool
  channel : Bool
  complete : Bool
  emptyBuffers : UInt64
  received : UInt64
  timedOut : UInt64
  released : UInt64
deriving DecidableEq

/-- A connected frame processor and its file writer. -/
structure Processor where
  sharedMemory : Bool
  processes : UInt64
  rank : Int64
  written : UInt64
  maximum : UInt64
  fileName : Option String
  writing : Bool
deriving DecidableEq

/-- A unit of a list, with what it reports about itself. -/
structure UnitStatus (α : Type) where
  isConnected : Bool
  detail? : Option α
deriving DecidableEq

inductive StatusResponse
  | apiVersion (version : String)
  | adapters (names : List String)
  | detectorConfig (config : DetectorConfig)
  | detectorStatus (status : DetectorStatus)
  | receivers (units : List (UnitStatus Receiver))
  | processors (units : List (UnitStatus Processor))

namespace UnitStatus

/-- A unit that is not connected reports little more than that. -/
def disconnected {α : Type} : UnitStatus α :=
  ⟨false, none⟩

def connected {α : Type} (detail : α) : UnitStatus α :=
  ⟨true, some detail⟩

/-- What is shown of a unit: nothing that it reports without being connected. -/
def shown? {α : Type} (u : UnitStatus α) : Option α :=
  if u.isConnected then u.detail? else none

end UnitStatus

namespace StatusResponse

def endpoint : StatusResponse → Endpoint
  | .apiVersion _ => .apiVersion
  | .adapters _ => .adapters
  | .detectorConfig _ => .detectorConfig
  | .detectorStatus _ => .detectorStatus
  | .receivers _ => .receivers
  | .processors _ => .processors

end StatusResponse

end DetectorDashboard
