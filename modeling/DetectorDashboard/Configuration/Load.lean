import DetectorDashboard.Configuration.Basic
import DetectorDashboard.Text.Blank
import DetectorDashboard.Text.Utf8

/-!
The configuration in force: that of the file, over which the environment goes, if the result is one
that the dashboard can run with.
-/

namespace DetectorDashboard

/-- What is found in the place of the configuration file. -/
inductive ConfigurationFile
  | missing
  | unreadable
  | content (bytes : List UInt8)

/-- The variables that are set. -/
abbrev Environment := String → Option String

/-- Why a configuration cannot be run with. -/
inductive InvalidConfiguration
  | portZero
  | noBaseUrl
  | periodZero
deriving DecidableEq

inductive ConfigurationError
  | unreadable
  | unparsable
  | invalid (problem : InvalidConfiguration)
deriving DecidableEq

namespace InvalidConfiguration

def message : InvalidConfiguration → String
  | .portZero => "port must be non-zero"
  | .noBaseUrl => "api.base_url must not be empty"
  | .periodZero => "polling intervals must be non-zero"

end InvalidConfiguration

namespace ConfigurationError

def message : ConfigurationError → String
  | .unreadable => "failed to read config file"
  | .unparsable => "failed to parse config file"
  | .invalid problem => s!"invalid configuration: {problem.message}"

end ConfigurationError

namespace Configuration

/-- The configuration of a file. Without one, the defaults are in force. -/
def ofFile : ConfigurationFile → Except ConfigurationError Configuration
  | .missing => .ok {}
  | .unreadable => .error .unreadable
  | .content bytes =>
    match Text.Utf8.decode? bytes with
    | none => .error .unreadable
    | some cs =>
      match ofText? cs with
      | none => .error .unparsable
      | some c => .ok c

def withHost (c : Configuration) (host : String) : Configuration :=
  { c with server := { c.server with host := host } }

def withPort (c : Configuration) (port : Nat) : Configuration :=
  { c with server := { c.server with port := port } }

def withBaseUrl (c : Configuration) (url : String) : Configuration :=
  { c with api := { c.api with baseUrl := url } }

def withFilter (c : Configuration) (filter : String) : Configuration :=
  { c with log := { c.log with filter := filter } }

def readPort? (s : String) : Option Nat :=
  Text.readUnsigned? UInt16.size s.toList

/-- The parts of an address before and after its last colon. -/
def splitAddress? (s : String) : Option (String × String) :=
  let reversed := s.toList.reverse
  match reversed.dropWhile (· ≠ ':') with
  | [] => none
  | _ :: host =>
    some (String.ofList host.reverse, String.ofList (reversed.takeWhile (· ≠ ':')).reverse)

/-- Applies a change for which a value is there. -/
def change {α : Type} (f : Configuration → α → Configuration) (value? : Option α)
    (c : Configuration) : Configuration :=
  (value?.map (f c)).getD c

/-- An address gives the host, and the port too if what follows the last colon is one. -/
def withAddress (c : Configuration) (address : String) : Configuration :=
  match splitAddress? address with
  | none => c
  | some (host, port) => (c.withHost host).change withPort (readPort? port)

/-- The environment over a configuration: what comes later counts more. -/
def override (env : Environment) (c : Configuration) : Configuration :=
  let hosted := c.change withHost (env "EIGERDASH_HOST")
  let ported := hosted.change withPort ((env "EIGERDASH_PORT").bind readPort?)
  let bound := ported.change withAddress (env "EIGERDASH_BIND")
  let connected := bound.change withBaseUrl (env "EIGERDASH_API_URL")
  let logged := connected.change withFilter (env "EIGERDASH_LOG")
  logged.change withFilter (env "RUST_LOG")

/-- The first of the faults that keep the dashboard from running. -/
def fault? (c : Configuration) : Option InvalidConfiguration :=
  if c.server.port = 0 then some .portZero
  else if Text.trim c.api.baseUrl = "" then some .noBaseUrl
  else if c.polling.detectorPeriod = 0 ∨ c.polling.unitsPeriod = 0 then some .periodZero
  else none

def load (file : ConfigurationFile) (env : Environment) :
    Except ConfigurationError Configuration := do
  let c := (← ofFile file).override env
  match c.fault? with
  | some problem => throw (.invalid problem)
  | none => return c

end Configuration

end DetectorDashboard
