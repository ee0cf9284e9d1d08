import HostMonitor.Json.Printer
import HostMonitor.Query.Logs
import HostMonitor.Query.Services
import HostMonitor.Tool.Catalog
import HostMonitor.Tool.Schemas

/-!
# What the gateway offers

Two tools list services and entries of the journal.  Three resources show the
same lists without arguments: all services, the failed ones, and the entries of
the last hour.
-/

namespace HostMonitor.Gateway

open Query Text Time Tool

/-! ## Arguments -/

def textArgument (name : String) (given : Json.Fields) : Option WireText :=
  match given.get? name with
  | some (.str t) => some t
  | _ => none

def valueArgument (name : String) (given : Json.Fields) : Json := (given.get? name).getD .null

def textsArgument (name : String) (given : Json.Fields) : List WireText :=
  match given.get? name with
  | some (.arr items) =>
    items.filterMap fun
      | .str t => some t
      | _ => none
  | _ => []

def servicesRequest (given : Json.Fields) : ServicesRequest :=
  ⟨textArgument "state" given, textArgument "name_contains" given, valueArgument "limit" given⟩

def logsRequest (given : Json.Fields) : LogsRequest where
  start := textArgument "start_utc" given
  stop := textArgument "end_utc" given
  priority := valueArgument "priority" given
  unit := textArgument "unit" given
  grep := textArgument "grep" given
  excludeUnits := textsArgument "exclude_units" given
  order := textArgument "order" given
  allowLargeWindow := valueArgument "allow_large_window" given == .bool true
  limit := valueArgument "limit" given

/-! ## Summaries -/

/-- The printed form of a field of a result. -/
def fieldOf (name : String) : Json → String
  | .obj fields => ((Json.Fields.get? name fields).getD .null).wide
  | _ => ""

/-- A list of services in a sentence. -/
def servicesSummary (result : Json) : String :=
  "Returned " ++ fieldOf "returned" result ++ " of " ++ fieldOf "total" result ++ " services"

/-- A list of entries in a sentence. -/
def logsSummary (result : Json) : String :=
  "Returned " ++ fieldOf "returned" result ++ " log entries"

/-! ## The catalog -/

/-- The list of services as a tool. -/
def servicesTool (s : Sources) (now : Instant) : ToolEntry where
  name := "list_services"
  description := "List systemd service units with their load, active and sub states"
  inputSchema := servicesInput
  outputSchema := servicesOutput
  signature := servicesSignature
  handler := fun given => do return (← listServices s now (servicesRequest given)).document
  summary := some servicesSummary

/-- The list of entries as a tool. -/
def logsTool (s : Sources) (now : Instant) : ToolEntry where
  name := "list_logs"
  description := "Query journal entries within a UTC time window"
  inputSchema := logsInput
  outputSchema := logsOutput
  signature := logsSignature
  handler := fun given => do return (← listLogs s now (logsRequest given)).document
  summary := some logsSummary

/-- All services as a resource. -/
def snapshotResource (s : Sources) (now : Instant) : ResourceEntry where
  uri := "resource://services/snapshot"
  name := "Services snapshot"
  description := "All systemd service units"
  reader := do return (← listServices s now .all).document

/-- The failed services as a resource. -/
def failedResource (s : Sources) (now : Instant) : ResourceEntry where
  uri := "resource://services/failed"
  name := "Failed services"
  description := "Service units whose active state is failed"
  reader := do return (← listServices s now .failed).document

/-- The entries of the last hour as a resource. -/
def recentResource (s : Sources) (now : Instant) : ResourceEntry where
  uri := "resource://logs/recent"
  name := "Recent logs"
  description := "Journal entries from the last hour, newest first"
  reader := do return (← recentLogs s now).document

/-- The tools and resources of the gateway. -/
def catalog (s : Sources) (now : Instant) : Catalog where
  tools := [servicesTool s now, logsTool s now]
  resources := [snapshotResource s now, failedResource s now, recentResource s now]

end HostMonitor.Gateway
