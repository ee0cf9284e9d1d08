import HostMonitor.Gateway.Http

/-!
# Starting up

The program reads its settings, registers what it offers, and starts to listen.
When the settings cannot be read it says why and ends with status two.
-/

namespace HostMonitor.Gateway

open Settings Text

structure LogSetup where
  level : String
  format : String
  deriving DecidableEq, Repr

structure Listener where
  address : String
  tcpPort : Int
  logLevel : String
  deriving DecidableEq, Repr

/-- What the program does when it is started. -/
inductive Startup where
  | refused (status : Nat) (text : String)
  | listening (settings : Settings) (log : LogSetup) (listener : Listener)
  deriving Repr

/-- The form of a line of the log. -/
def lineFormat : String := "%(asctime)s %(levelname)s %(name)s: %(message)s"

/-- Surroundings in which no command runs.  What the gateway offers is the same in
all surroundings. -/
def idle : Surroundings := ⟨fun _ => .unstartable "", ⟨0⟩, fun _ => none, fun _ => "", ""⟩

/-- Writes to the log what can be called. -/
def announce (s : Settings) : Run Unit := do
  let c := catalog (sources s idle.machine idle.charNames) idle.now
  c.tools.forM fun t => .note (.toolRegistered t.name)
  c.resources.forM fun r => .note (.resourceRegistered r.uri)
  (methods c).forM fun m => .note (.methodRegistered m.1)

/-- Writes to the log that requests are accepted. -/
def beginServing (s : Settings) : Run Unit :=
  let c := catalog (sources s idle.machine idle.charNames) idle.now
  .note (.serving s.address s.tcpPort c.tools.length c.resources.length (methods c).length)

/-- Writes to the log that no more requests are accepted. -/
def endServing : Run Unit := .note .stopping

/-- Starts the program in an environment. -/
def start (env : Environment) : Run Startup :=
  match ofEnvironment env with
  | .error text => .done (.refused 2 ("configuration error: " ++ text ++ "\n"))
  | .ok s => do
    .note s.notice
    announce s
    .note (.listening s.address s.tcpPort)
    return .listening s ⟨s.logLevel, lineFormat⟩ ⟨s.address, s.tcpPort, lower s.logLevel⟩

end HostMonitor.Gateway
