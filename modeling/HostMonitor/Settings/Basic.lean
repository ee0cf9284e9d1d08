import HostMonitor.Run.Basic
import HostMonitor.Settings.Values

/-!
# Settings

The program is set up once, from variables of its environment.  Each setting has
a variable, a name and a standard value, apart from the token, which has to be
given.

Of several settings that cannot be read, the first in the order of the fields is
reported.  A list of networks that is no list is a breakdown, whatever else is
wrong.
-/

namespace HostMonitor

open Net Number Setting Text

structure Settings where
  token : String
  address : String
  tcpPort : Int
  /-- The network that requests may come from; any when there is none. -/
  allowed : Option Network
  /-- The networks of proxies whose word about a client is taken. -/
  proxies : List Network
  /-- How long a host command may take, in seconds. -/
  timeout : Binary64
  /-- The most entries that are read from the journal at once. -/
  journalMost : Int
  logLevel : String
  deriving DecidableEq, Repr

namespace Settings

/-- A setting that cannot be read. -/
structure Objection where
  setting : String
  sentence : String
  deriving DecidableEq, Repr

/-- Why there are no settings. -/
inductive Refusal where
  | objection (o : Objection)
  /-- A value is of a kind that was not foreseen. -/
  | breakdown
  deriving DecidableEq, Repr

/-- The values of settings by their names. -/
abbrev Values := Json.Fields

/-- The variables of the environment and the settings they hold, in the order of
the fields. -/
def knownVariables : List (String × String) :=
  [("MCP_API_TOKEN", "api_token"), ("BIND_ADDR", "bind_addr"), ("BIND_PORT", "bind_port"),
   ("MCP_ALLOWED_CIDR", "allowed_cidr"), ("MCP_TRUSTED_PROXIES", "trusted_proxies"),
   ("MCP_ADAPTER_TIMEOUT_SECONDS", "adapter_timeout_seconds"),
   ("MCP_JOURNAL_MAX_ENTRIES", "journal_max_entries"), ("LOG_LEVEL", "log_level")]

/-- Reads a setting, or gives its standard value when it is not given. -/
def setting {α : Type} (values : Values) (name : String) (read : Json → Reading α)
    (standard : α) : Except Refusal α :=
  match values.get? name with
  | none => .ok standard
  | some value => (read value).mapError fun sentence => .objection ⟨name, sentence⟩

/-- Reads the token, which has to be given. -/
def tokenSetting (values : Values) : Except Refusal String :=
  match values.get? "api_token" with
  | none => .error (.objection ⟨"api_token", "Field required"⟩)
  | some value => (tokenText value).mapError fun sentence => .objection ⟨"api_token", sentence⟩

/-- The items of a list of networks.  A text is cut at its commas, and of an
object the keys count. -/
def networkItems : Json → Option (List Json)
  | .null => some []
  | .str t => some ((cells ',' t.shown.toList).map fun cell => .ofString (String.ofList cell))
  | .arr items => some items
  | .obj fields => some (fields.map fun field => .str field.1)
  | _ => none

def networks (value : Json) : Reading (List Network) :=
  networksOfItems ((networkItems value).getD [])

/-- The list of proxies is of a kind that was not foreseen. -/
def breaksDown (values : Values) : Bool :=
  match values.get? "trusted_proxies" with
  | none => false
  | some value => (networkItems value).isNone

def ofValues (values : Values) : Except Refusal Settings := do
  if breaksDown values then throw .breakdown
  let token ← tokenSetting values
  let address ← setting values "bind_addr" addressText "127.0.0.1"
  let tcpPort ← setting values "bind_port" (integerBetween 1 65535) 8080
  let allowed ← setting values "allowed_cidr" network? none
  let proxies ← setting values "trusted_proxies" networks []
  let timeout ← setting values "adapter_timeout_seconds" positive (.ofInt 10)
  let journalMost ← setting values "journal_max_entries" (integerFrom 1) 10000
  let logLevel ← setting values "log_level" levelName "INFO"
  return ⟨token, address, tcpPort, allowed, proxies, timeout, journalMost, logLevel⟩

/-! ## The environment -/

abbrev Environment := List (String × String)

/-- The values that an environment gives. -/
def valuesOf (env : Environment) : Values :=
  knownVariables.filterMap fun (source, name) =>
    (env.lookup source).map fun text => (WireText.chars name, Json.ofString text)

def variableOf (setting : String) : String :=
  ((knownVariables.find? (·.2 == setting)).map Prod.fst).getD setting

/-- What an objection says about a variable. -/
def Objection.message (o : Objection) : String :=
  variableOf o.setting ++ " is invalid: " ++ o.sentence

/-- What is said when the token is not given. -/
def tokenRequired : String := "MCP_API_TOKEN is required"

/-- The line for the log about settings. -/
def notice (s : Settings) : Notice :=
  .configured s.address s.tcpPort (s.allowed.map Network.text) s.proxies.length

/-- The settings of an environment, or what to say about it. -/
def ofEnvironment (env : Environment) : Except String Settings :=
  let values := valuesOf env
  if (values.get? "api_token").isNone then .error tokenRequired
  else
    match ofValues values with
    | .ok s => .ok s
    | .error (.objection o) => .error o.message
    | .error .breakdown => .error "MCP_TRUSTED_PROXIES is invalid"

end Settings

end HostMonitor
