import HostMonitor.Host.Command
import HostMonitor.Service.Details
import HostMonitor.Service.Listing

/-!
# Listing the units of the host

Two commands are run.  The first prints the table of units.  The second prints
the details of the units in the table, and when it fails the table alone is
returned.  Only a breakdown is not caught.
-/

namespace HostMonitor.Service

open Host

/-- The command that prints the table. -/
def tableCommand : List String :=
  ["systemctl", "list-units", "--type=service", "--all", "--no-legend", "--no-pager", "--plain",
   "--full"]

/-- The properties that are asked for. -/
def detailNames : List String :=
  ["Id", "UnitFileState", "ActiveEnterTimestamp", "MainPID", "ExecMainStatus", "Result"]

/-- The command that prints the details of units. -/
def detailsCommand (units : List ServiceUnit) : List String :=
  ["systemctl", "show", "--no-pager", "--timestamp=unix",
    "--property=" ++ ",".intercalate detailNames, "--"] ++ units.map ServiceUnit.name

def list (machine : Machine) (allowance : Allowance) : Run (List ServiceUnit) := do
  let table ← run machine allowance tableCommand
  let units := ofTable table
  if units.isEmpty then return units
  match ← (run machine allowance (detailsCommand units)).attempt with
  | .ok text => .ofExcept (enriched units (blocks text))
  | .error (.reported report) => do
    .note (.detailsMissing report.message)
    return units
  | .error (.breakdown text) => .fail (.breakdown text)

end HostMonitor.Service
