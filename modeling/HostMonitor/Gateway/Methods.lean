import HostMonitor.Rpc.Dispatch
import HostMonitor.Tool.Catalog

/-!
# The methods of the gateway

A client first agrees on a version and learns what the server can do.  Then it
lists tools and calls them, and lists resources and reads them.
-/

namespace HostMonitor.Gateway

open Rpc Text Tool

def serverName : String := "systemd-monitoring-mcp"

def serverVersion : String := "0.1.0"

/-- The version that is offered when the client asks for another one. -/
def standardVersion : String := "2025-06-18"

/-- The versions that the server speaks. -/
def knownVersions : List String := ["2025-06-18", "2025-03-26", "2024-11-05"]

/-- What a client is told about the use of the server. -/
def instructions : String :=
  "Read-only systemd monitoring. Use list_services for unit state and " ++
    "list_logs for journal entries inside a UTC window of at most 7 days."

/-- The version to speak. -/
def negotiate (requested : String) : String :=
  if knownVersions.contains requested then requested else standardVersion

/-- The version that a client asks for, unless it is blank. -/
def requestedVersion? (params : Json.Fields) : Option WireText :=
  match params.get? "protocolVersion" with
  | some (.str (.chars s)) => if blank s then none else some (.chars s)
  | some (.str t) => some t
  | _ => none

/-- The member is an object. -/
def hasObject (params : Json.Fields) (name : String) : Bool :=
  ((params.get? name).map Json.isObject).getD false

/-- The members that a client has to give and did not. -/
def missingMembers (params : Json.Fields) : List String :=
  (if (requestedVersion? params).isSome then [] else ["protocolVersion"]) ++
    (["clientInfo", "capabilities"].filter fun name => !hasObject params name)

def capabilities : Json :=
  .record [("tools", .record [("listChanged", .bool false)]),
    ("resources", .record [("subscribe", .bool false), ("listChanged", .bool false)])]

/-- Agrees on a version with a client. -/
def greet : Method := fun params =>
  let missing := missingMembers params
  if !missing.isEmpty then
    .fail (.reported (.of .invalidParams
      "initialize requires protocolVersion, clientInfo and capabilities" ""
      [("missing", .ofStrings missing)]))
  else
    let requested := ((requestedVersion? params).bind WireText.chars?).getD ""
    .done (.record [("protocolVersion", .ofString (negotiate requested)),
      ("capabilities", capabilities),
      ("serverInfo", .record [("name", .ofString serverName),
        ("version", .ofString serverVersion)]),
      ("instructions", .ofString instructions)])

def acknowledge : Method := fun _ => .done (.obj [])

/-- A text that is not empty. -/
def filledText? (params : Json.Fields) (name : String) : Option WireText :=
  match params.get? name with
  | some (.str t) => if t.isEmpty then none else some t
  | _ => none

/-- The report about a text that is missing. -/
def missingText (message name : String) : Fault :=
  .reported (.of .invalidParams message "" [("missing", .ofStrings [name])])

def callTool (c : Catalog) : Method := fun params =>
  match filledText? params "name" with
  | none => .fail (missingText "Tool name is required" "name")
  | some name =>
    match params.get? "arguments" with
    | none | some .null => c.callTool name []
    | some (.obj arguments) => c.callTool name arguments
    | some _ => .fail (.reported (.of .invalidParams "arguments must be an object" "" []))

def readResource (c : Catalog) : Method := fun params =>
  match filledText? params "uri" with
  | none => .fail (missingText "Resource uri is required" "uri")
  | some uri => c.readResource uri

def methods (c : Catalog) : Methods :=
  [("initialize", greet),
   ("notifications/initialized", acknowledge),
   ("notifications/cancelled", acknowledge),
   ("ping", acknowledge),
   ("tools/list", fun _ => .done (.record [("tools", c.toolDocument)])),
   ("tools/call", callTool c),
   ("resources/list", fun _ => .done (.record [("resources", c.resourceDocument)])),
   ("resources/read", readResource c)]

end HostMonitor.Gateway
