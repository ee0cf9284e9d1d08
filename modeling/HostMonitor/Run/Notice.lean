import HostMonitor.Run.Report

/-!
# Notices

A notice is a line of the log.  It has a level, a channel, which is named for
the part of the program that speaks, and a text.
-/

namespace HostMonitor

/-- How much a notice matters. -/
inductive Level where
  | info
  | warning
  | error
  deriving DecidableEq, Repr

def Level.word : Level → String
  | .info => "INFO"
  | .warning => "WARNING"
  | .error => "ERROR"

inductive Notice where
  | configured (address : String) (tcpPort : Int) (allowed : Option String) (proxies : Nat)
  | refused (reason context : String)
  | methodRegistered (name : String)
  | toolRegistered (name : String)
  | resourceRegistered (uri : String)
  /-- A call failed for a reason that its reply does not give. -/
  | internalError (method errorId : String) (fault : Fault)
  | audited (method params : String) (failed : Bool)
  /-- A read of the journal gave as many rows as it may. -/
  | scanLimitReached (limit : Int)
  /-- The details of units could not be read. -/
  | detailsMissing (cause : String)
  | unauthorized (method path : String)
  | answered (method path : String) (status : Nat) (duration : String)
  | unanswered (path : String)
  | listening (address : String) (tcpPort : Int)
  | serving (address : String) (tcpPort : Int) (tools resources methods : Nat)
  | stopping
  deriving DecidableEq, Repr

namespace Notice

def level : Notice → Level
  | .refused .. | .scanLimitReached _ | .detailsMissing _ | .unauthorized .. => .warning
  | .internalError .. | .unanswered _ => .error
  | _ => .info

/-- The last part of the channel. -/
def speaker : Notice → String
  | .configured .. => "config"
  | .refused .. => "auth"
  | .methodRegistered _ | .internalError .. => "jsonrpc.handler"
  | .toolRegistered _ | .resourceRegistered _ => "mcp_handler"
  | .audited .. => "audit"
  | .scanLimitReached _ => "monitoring.queries"
  | .detailsMissing _ => "systemd.systemctl"
  | .unauthorized .. | .answered .. | .unanswered _ | .serving .. | .stopping => "server"
  | .listening .. => "__main__"

def channel (n : Notice) : String := "systemd_monitoring_mcp." ++ n.speaker

def text : Notice → String
  | .configured address tcpPort allowed proxies =>
    "Configuration loaded: bind=" ++ address ++ ":" ++ toString tcpPort ++ " allowed_cidr=" ++
      allowed.getD "None" ++ " trusted_proxies=" ++ toString proxies
  | .refused reason context => "authentication failure: reason=" ++ reason ++ " " ++ context
  | .methodRegistered name => "Registered JSON-RPC method: " ++ name
  | .toolRegistered name => "Registered tool: " ++ name
  | .resourceRegistered uri => "Registered resource: " ++ uri
  | .internalError method errorId fault =>
    "Internal error handling " ++ method ++ " (error_id=" ++ errorId ++ "): " ++ fault.cause
  | .audited method params failed =>
    "mcp action audited: method=" ++ method ++ " params=" ++ params ++ " outcome=" ++
      if failed then "failure" else "success"
  | .scanLimitReached limit =>
    "list_logs reached the journal scan limit of " ++ toString limit ++
      " rows; older entries in the window were not scanned"
  | .detailsMissing cause => "Failed to enrich service details from systemctl: " ++ cause
  | .unauthorized method path => "unauthorized request: method=" ++ method ++ " path=" ++ path
  | .answered method path status duration =>
    "request summary: method=" ++ method ++ " path=" ++ path ++ " status=" ++ toString status ++
      " duration_ms=" ++ duration
  | .unanswered path => "Unhandled error on " ++ path
  | .listening address tcpPort => "Starting HTTP server on " ++ address ++ ":" ++ toString tcpPort
  | .serving address tcpPort tools resources methods =>
    "Starting MCP server on " ++ address ++ ":" ++ toString tcpPort ++ " (" ++ toString tools ++
      " tools, " ++ toString resources ++ " resources, " ++ toString methods ++
      " JSON-RPC methods)"
  | .stopping => "Shutting down MCP server..."

def line (n : Notice) : String := n.level.word ++ " " ++ n.channel ++ ": " ++ n.text

end Notice

end HostMonitor
