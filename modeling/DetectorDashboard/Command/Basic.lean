import DetectorDashboard.Endpoint
import DetectorDashboard.Json.Basic

/-!
What a user can ask of the detector and the file writers, and the writes to the control server that
it takes. The writes of one command do not wait for one another, and none is taken back.
-/

namespace DetectorDashboard

/-- Transitions of the detector's state machine. -/
inductive DetectorAction
  | initialise
  | arm
  | trigger
  | disarm
  | cancel
  | abort
deriving DecidableEq

/-- A write to the control server; without a body it has no payload. -/
structure PutRequest where
  path : String
  body : Option Json

/-- Times are in seconds. -/
inductive Command
  | setExposure (seconds : Binary64.Magnitude)
  | setPeriod (seconds : Binary64.Magnitude)
  | setImageCount (count : UInt64)
  | setWriter (frames : UInt64) (path filename : String)
  | startWriting
  | stopWriting
  | detector (action : DetectorAction)
deriving DecidableEq

namespace DetectorAction

def all : List DetectorAction :=
  [.initialise, .arm, .trigger, .disarm, .cancel, .abort]

def name : DetectorAction → String
  | .initialise => "initialize"
  | .arm => "arm"
  | .trigger => "trigger"
  | .disarm => "disarm"
  | .cancel => "cancel"
  | .abort => "abort"

def ofName? (name : String) : Option DetectorAction :=
  all.find? (·.name == name)

theorem ofName?_name (a : DetectorAction) : ofName? a.name = some a := by
  cases a <;> decide

end DetectorAction

namespace Command

def name : Command → String
  | .setExposure _ => "set_exposure"
  | .setPeriod _ => "set_period"
  | .setImageCount _ => "set_image_count"
  | .setWriter .. => "processor_params"
  | .startWriting => "start_writing"
  | .stopWriting => "stop_writing"
  | .detector _ => "detector_command"

def secondsBody (m : Binary64.Magnitude) : Json :=
  .number (.float ⟨false, m⟩)

def countBody (n : UInt64) : Json :=
  .number (.count n)

/-- The writes of a command, in the order in which they are sent. -/
def requests (paths : ApiPaths) : Command → List PutRequest
  | .setExposure seconds => [⟨paths.detector "config/count_time", some (secondsBody seconds)⟩]
  | .setPeriod seconds => [⟨paths.detector "config/frame_time", some (secondsBody seconds)⟩]
  | .setImageCount count => [⟨paths.detector "config/nimages", some (countBody count)⟩]
  | .setWriter frames path filename =>
    [ ⟨paths.processorConfig "hdf/frames", some (countBody frames)⟩,
      ⟨paths.processorConfig "hdf/file/path", some (.string path)⟩,
      ⟨paths.processorConfig "hdf/file/name", some (.string filename)⟩ ]
  | .startWriting =>
    [ ⟨paths.processorCommand "reset_statistics", none⟩,
      ⟨paths.processorConfig "hdf/master", some (.string "data")⟩,
      ⟨paths.processorConfig "hdf/write", some (countBody 1)⟩ ]
  | .stopWriting => [⟨paths.processorConfig "hdf/write", some (countBody 0)⟩]
  | .detector action => [⟨paths.detector ("command/" ++ action.name), none⟩]

end Command

end DetectorDashboard
