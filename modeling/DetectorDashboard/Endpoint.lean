/-!
The status endpoints of the control server and the paths under which it serves them.
-/

namespace DetectorDashboard

inductive Endpoint
  | apiVersion
  | adapters
  | detectorConfig
  | detectorStatus
  | receivers
  | processors
deriving DecidableEq

/-- The versions that the paths are built with: that of the control server and that of the
detector it speaks for. -/
structure ApiPaths where
  version : String
  detectorApi : String
deriving DecidableEq

namespace ApiPaths

def versioned (paths : ApiPaths) (rest : String) : String :=
  "/api/" ++ paths.version ++ "/" ++ rest

def detector (paths : ApiPaths) (rest : String) : String :=
  paths.versioned ("eiger/detector/api/" ++ paths.detectorApi ++ "/" ++ rest)

def processorConfig (paths : ApiPaths) (rest : String) : String :=
  paths.versioned ("fp/config/" ++ rest)

def processorCommand (paths : ApiPaths) (rest : String) : String :=
  paths.versioned ("fp/command/" ++ rest)

end ApiPaths

namespace Endpoint

def all : List Endpoint :=
  [.apiVersion, .adapters, .detectorConfig, .detectorStatus, .receivers, .processors]

theorem mem_all (e : Endpoint) : e ∈ all := by
  cases e <;> decide

/-- The name used in messages. -/
def name : Endpoint → String
  | .apiVersion => "api"
  | .adapters => "adapters"
  | .detectorConfig => "detector/config"
  | .detectorStatus => "detector/status"
  | .receivers => "fr/status"
  | .processors => "fp/status"

/-- The name used in updates. -/
def label : Endpoint → String
  | .apiVersion => "api_version"
  | .adapters => "adapters"
  | .detectorConfig => "detector_config"
  | .detectorStatus => "detector_status"
  | .receivers => "receivers"
  | .processors => "processors"

def path (paths : ApiPaths) : Endpoint → String
  | .apiVersion => "/api"
  | .adapters => paths.versioned "adapters/"
  | .detectorConfig => paths.detector "config"
  | .detectorStatus => paths.detector "status"
  | .receivers => paths.versioned "fr/status/"
  | .processors => paths.versioned "fp/status/"

end Endpoint

end DetectorDashboard
