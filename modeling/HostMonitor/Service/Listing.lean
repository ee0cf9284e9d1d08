import HostMonitor.Json.Basic
import HostMonitor.Text.Split

/-!
# Service units

What the host tells about its service units begins with a table.  It prints one
unit on a line: its name, three states and a description, with blanks between them.
A line may begin with marks.  Lines with fewer columns and lines about other kinds of
units are left out.  The units are returned in the order of their names.
-/

namespace HostMonitor.Service

open Text

structure ServiceUnit where
  name : String
  description : String
  loadState : String
  activeState : String
  /-- Its state in the words of its kind of unit. -/
  subState : String
  fileState : Option String
  /-- Since when it is active. -/
  since : Option String
  mainPid : Option Int
  exitStatus : Option Int
  /-- How it ended. -/
  result : Option String
  deriving DecidableEq, Repr

def ServiceUnit.document (u : ServiceUnit) : Json :=
  .record [("unit", .ofString u.name), ("description", .ofString u.description),
    ("load_state", .ofString u.loadState), ("active_state", .ofString u.activeState),
    ("sub_state", .ofString u.subState), ("unit_file_state", .ofString? u.fileState),
    ("since_utc", .ofString? u.since), ("main_pid", .ofInt? u.mainPid),
    ("exec_main_status", .ofInt? u.exitStatus), ("result", .ofString? u.result)]

/-! ## The table -/

/-- A mark at the start of a line. -/
def isMark (c : Char) : Bool := c.toNat == 0x25CF || c == '*'

/-- A line without its marks and without blanks around it. -/
def unmarked (line : List Char) : List Char := trim (trimStartBy isMark (trim line))

/-- The ending of the names of service units. -/
def serviceEnding : List Char := ".service".toList

def ofLine? (line : List Char) : Option ServiceUnit :=
  match columns 4 (unmarked line) with
  | name :: load :: active :: sub :: more =>
    if serviceEnding.isSuffixOf name then
      some {
        name := String.ofList name
        description := String.ofList (more.head?.getD [])
        loadState := String.ofList load
        activeState := String.ofList active
        subState := String.ofList sub
        fileState := none
        since := none
        mainPid := none
        exitStatus := none
        result := none }
    else none
  | _ => none

def nameLE (a b : ServiceUnit) : Bool := !decide (b.name < a.name)

theorem nameLE_iff {a b : ServiceUnit} : nameLE a b = true ↔ a.name ≤ b.name := by
  rw [nameLE, Bool.not_eq_true', decide_eq_false_iff_not, String.not_lt]

theorem nameLE_trans (a b c : ServiceUnit) (first : nameLE a b = true)
    (second : nameLE b c = true) : nameLE a c = true :=
  nameLE_iff.mpr (String.le_trans (nameLE_iff.mp first) (nameLE_iff.mp second))

theorem nameLE_total (a b : ServiceUnit) : (nameLE a b || nameLE b a) = true := by
  rw [Bool.or_eq_true, nameLE_iff, nameLE_iff]
  exact String.le_total a.name b.name

def ofTable (table : String) : List ServiceUnit :=
  ((lines table.toList).filterMap ofLine?).mergeSort nameLE

end HostMonitor.Service
