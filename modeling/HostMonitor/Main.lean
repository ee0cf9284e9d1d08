import HostMonitor.Gateway.Startup

/-!
# The program

The environment is read once.  When the settings in it cannot be read, the program
says why and ends.  Otherwise it writes to the log what it offers and where.

Connections are the work of a listener, which hands each request to
`Gateway.respond` and each command to the host.  Neither is part of the library.
-/

open HostMonitor

/-- The variables that the program looks at, as far as they are set. -/
def readEnvironment : IO Settings.Environment :=
  Settings.knownVariables.filterMapM fun (source, _) => do
    return (← IO.getEnv source).map fun text => (source, text)

def main : IO UInt32 := do
  let run := Gateway.start (← readEnvironment)
  for notice in run.notices do
    IO.eprintln notice.line
  match run.outcome with
  | .error _ => return 1
  | .ok (.refused status text) => do
    IO.eprint text
    return status.toUInt32
  | .ok (.listening settings _ _) => do
    for notice in ((Gateway.beginServing settings).notices ++ Gateway.endServing.notices) do
      IO.eprintln notice.line
    return 0
