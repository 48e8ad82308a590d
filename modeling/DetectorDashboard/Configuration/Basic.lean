import DetectorDashboard.Application.Basic
import DetectorDashboard.Toml.Reader

/-!
The configuration of the dashboard, as it stands without a file, and its reading from one. What a
file leaves out keeps its default; what it says beyond that is passed over.
-/

namespace DetectorDashboard

/-- Where the dashboard listens. -/
structure ServerOptions where
  host : String := "0.0.0.0"
  port : Nat := 3000
deriving DecidableEq

/-- How the control server is reached. -/
structure ApiOptions where
  baseUrl : String := "http://127.0.0.1:8888"
  version : String := ({} : Settings).apiVersion
  detectorApi : String := ({} : Settings).detectorApi
  /-- In milliseconds; without one, requests wait for ever. -/
  timeout : Nat := 2000
deriving DecidableEq

/-- Periods are in milliseconds. -/
structure PollingOptions where
  detectorPeriod : Nat := ({} : Sizes).detectorPeriod
  unitsPeriod : Nat := ({} : Sizes).unitsPeriod
  tableRows : Nat := ({} : Settings).tableRows
deriving DecidableEq

structure PageOptions where
  title : String := ({} : Settings).baseTitle
  refreshSeconds : Nat := ({} : Sizes).refreshSeconds
  /-- Where the view starts. -/
  fragment : String := "#/home-view"
  /-- The directory of the lamps and other files, if any are served. -/
  assets : String := "img"
deriving DecidableEq

structure LogOptions where
  filter : String := "eigerdashd=info,eigerdash=info,tower_http=debug"
deriving DecidableEq

structure Configuration where
  server : ServerOptions := {}
  api : ApiOptions := {}
  polling : PollingOptions := {}
  page : PageOptions := {}
  log : LogOptions := {}
deriving DecidableEq

namespace Configuration

open Toml

/-- The values that a section gives for its fields. -/
abbrev Section := String → Option Node

/-- A section is a table or, with its fields in order, a list. A date is taken for a table without
any of them. -/
def section? (names : List String) : Node → Option Section
  | .table _ entries => some fun name => entries.lookup name
  | .array items => some fun name => (names.zip items).lookup name
  | .tables rows =>
    some fun name => (names.zip (rows.reverse.map (Node.table .header))).lookup name
  | .datetime _ => some fun _ => none
  | _ => none

/-- The value of a field, or its default; none if the value is of the wrong type. -/
def field? {α : Type} (s : Section) (name : String) (default : α) (read? : Node → Option α) :
    Option α :=
  match s name with
  | none => some default
  | some v => read? v

def text? : Node → Option String
  | .string s => some s
  | _ => none

/-- A whole number below a bound. -/
def natural? (bound : Nat) : Node → Option Nat
  | .integer n => if 0 ≤ n ∧ n < bound then some n.toNat else none
  | _ => none

def server? (v : Node) : Option ServerOptions := do
  let d : ServerOptions := {}
  let s ← section? ["host", "port"] v
  let host ← field? s "host" d.host text?
  let port ← field? s "port" d.port (natural? UInt16.size)
  some ⟨host, port⟩

def api? (v : Node) : Option ApiOptions := do
  let d : ApiOptions := {}
  let s ← section? ["base_url", "version", "detector_api", "timeout_ms"] v
  let baseUrl ← field? s "base_url" d.baseUrl text?
  let version ← field? s "version" d.version text?
  let detectorApi ← field? s "detector_api" d.detectorApi text?
  let timeout ← field? s "timeout_ms" d.timeout (natural? UInt64.size)
  some ⟨baseUrl, version, detectorApi, timeout⟩

def polling? (v : Node) : Option PollingOptions := do
  let d : PollingOptions := {}
  let s ← section? ["detector_interval_ms", "units_interval_ms", "table_rows"] v
  let detector ← field? s "detector_interval_ms" d.detectorPeriod (natural? UInt64.size)
  let units ← field? s "units_interval_ms" d.unitsPeriod (natural? UInt64.size)
  let rows ← field? s "table_rows" d.tableRows (natural? UInt64.size)
  some ⟨detector, units, rows⟩

def page? (v : Node) : Option PageOptions := do
  let d : PageOptions := {}
  let s ← section? ["title", "refresh_secs", "initial_fragment", "assets_dir"] v
  let title ← field? s "title" d.title text?
  let refresh ← field? s "refresh_secs" d.refreshSeconds (natural? UInt32.size)
  let fragment ← field? s "initial_fragment" d.fragment text?
  let assets ← field? s "assets_dir" d.assets text?
  some ⟨title, refresh, fragment, assets⟩

def log? (v : Node) : Option LogOptions := do
  let d : LogOptions := {}
  let s ← section? ["filter"] v
  let filter ← field? s "filter" d.filter text?
  some ⟨filter⟩

/-- The configuration that the entries of a document give. -/
def ofEntries? (entries : Entries) : Option Configuration := do
  let document : Section := fun name => entries.lookup name
  let server ← field? document "server" {} server?
  let api ← field? document "api" {} api?
  let polling ← field? document "polling" {} polling?
  let page ← field? document "dashboard" {} page?
  let log ← field? document "logging" {} log?
  some ⟨server, api, polling, page, log⟩

def ofText? (cs : List Char) : Option Configuration :=
  (Toml.read? cs).bind ofEntries?

def bindAddress (c : Configuration) : String :=
  s!"{c.server.host}:{Text.decimal c.server.port}"

def requestTimeout? (c : Configuration) : Option Nat :=
  if 0 < c.api.timeout then some c.api.timeout else none

def settings (c : Configuration) : Settings where
  baseTitle := c.page.title
  apiVersion := c.api.version
  detectorApi := c.api.detectorApi
  tableRows := c.polling.tableRows

end Configuration

end DetectorDashboard
