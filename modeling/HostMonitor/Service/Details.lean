import HostMonitor.Number.Reader
import HostMonitor.Run.Report
import HostMonitor.Text.Split
import HostMonitor.Time.Rfc3339
import HostMonitor.Service.Listing

/-!
# Details of units

The host prints the properties of units in blocks, a property on a line as
`Name=value`, with blank lines between the blocks.  A line without an equals sign
is left out.  A property that is given twice has its later value.

The property `Id` names the unit of a block.  A unit takes its details from the
last block with its name, and keeps what the table says when there is none.  A
time is given in seconds, and one outside the calendar is a breakdown.
-/

namespace HostMonitor.Service

open Number Text Time

/-- The properties of a unit, in order. -/
abbrev Properties := Keyed String String

def property? (name : String) (ps : Properties) : Option String := ps.lookup name

/-- The block with the property on a line, if the line has one. -/
def withLine (block : Properties) (line : List Char) : Properties :=
  match cut '=' line with
  | (name, some value) => block.put (String.ofList name) (String.ofList value)
  | (_, none) => block

/-- A line with an equals sign sets the property that is named before it. -/
theorem withLine_append {name : List Char} (plain : '=' ∉ name) (block : Properties)
    (value : List Char) : withLine block (name ++ '=' :: value) =
      block.put (String.ofList name) (String.ofList value) := by
  rw [withLine, cut_append value plain]

theorem withLine_of_not_mem {line : List Char} (plain : '=' ∉ line) (block : Properties) :
    withLine block line = block := by
  rw [withLine, cut_of_not_mem plain]

/-- The blocks of lines, where `block` is the one that is open. -/
def blocksFrom (block : Properties) : List (List Char) → List Properties
  | [] => if block.isEmpty then [] else [block]
  | line :: rest =>
    if line.all isBlank then
      if block.isEmpty then blocksFrom [] rest else block :: blocksFrom [] rest
    else blocksFrom (withLine block line) rest

def blocks (text : String) : List Properties := blocksFrom [] (lines text.toList)

/-! ## Values -/

/-- A value that is not empty. -/
def filled : Option String → Option String
  | some s => if s.isEmpty then none else some s
  | none => none

/-- The integer of a value, if it is one. -/
def integer? (value : Option String) : Option Int := (filled value).bind fun s => int? s.toList

/-- The timestamp of a number of seconds, with or without a sign before it.
There is none for a value that is no number, and none for one that is not above
zero. -/
def timestampOf (value : Option String) : Except Fault (Option String) :=
  match (filled value).bind fun s => float? (trimStartBy (· == '@') (trim s.toList)) with
  | none => .ok none
  | some .nan => .error .unconvertible
  | some seconds =>
    if !seconds.isPositive then .ok none
    else
      match Instant.ofSeconds? seconds with
      | some t => .ok (some t.timestamp)
      | none => .error .unconvertible

/-- The unit with the details of a block. -/
def ServiceUnit.withDetails (u : ServiceUnit) (ps : Properties) : Except Fault ServiceUnit := do
  let since ← timestampOf (property? "ActiveEnterTimestamp" ps)
  let mainPid := integer? (property? "MainPID" ps)
  return { u with
    fileState := filled (property? "UnitFileState" ps)
    since
    mainPid := if mainPid = some 0 then none else mainPid
    exitStatus := integer? (property? "ExecMainStatus" ps)
    result := filled (property? "Result" ps) }

/-- The last block about a unit. -/
def blockOf? (name : String) (all : List Properties) : Option Properties :=
  all.reverse.find? fun ps => property? "Id" ps == some name

/-- The units with the details of their blocks. -/
def enriched (units : List ServiceUnit) (all : List Properties) :
    Except Fault (List ServiceUnit) :=
  units.mapM fun u =>
    match blockOf? u.name all with
    | some ps => u.withDetails ps
    | none => .ok u

end HostMonitor.Service
