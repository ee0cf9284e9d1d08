import HostMonitor.Host.Command
import HostMonitor.Json.Printer
import HostMonitor.Json.Reader
import HostMonitor.Journal.Entry
import HostMonitor.Run.Report
import HostMonitor.Text.Split
import HostMonitor.Text.Utf8

/-!
# Reading the journal of the host

The host prints an entry as an object on a line.  A field is a text, or the list
of the bytes of a text that is not UTF-8.  The time is a number of microseconds.
A record without a readable time is left out, and so is a line that is no object.

Three things are breakdowns: a time outside the calendar, a number written with
digits that are not decimal, and nesting too deep to read.

One command prints the newest entries of a window, at most so many.  Its bounds
are whole seconds, so they are moved outward to the next ones.
-/

namespace HostMonitor.Journal

open Host Number Text Time

/-! ## Fields -/

/-- The byte that an item of a list stands for. -/
def byte? : Json → Option UInt8
  | .int n => if 0 ≤ n ∧ n ≤ 255 then some (UInt8.ofNat n.toNat) else none
  | .bool b => some (if b then 1 else 0)
  | _ => none

def fieldText : Json → Option WireText
  | .null => none
  | .arr items =>
    (items.mapM byte?).map fun bytes => .chars (String.ofList (Utf8.decodeLossy bytes))
  | value => some value.shown

/-- The text of the field of a record. -/
def field (key : String) (fields : Json.Fields) : Option WireText :=
  (fields.get? key).bind fieldText

/-- The number of the field of a record, if its text consists of digits. -/
def fieldNumber (key : String) (fields : Json.Fields) : Except Fault (Option Int) :=
  match (field key fields).bind WireText.chars? with
  | none => .ok none
  | some s =>
    if s.isEmpty || !s.toList.all isDigitLike then .ok none
    else
      match int? s.toList with
      | some n => .ok (some n)
      | none => .error .unconvertible

/-! ## Times -/

/-- The microseconds that a value gives; nothing when it gives none.  An
infinity is a breakdown. -/
def microseconds (value : Json) : Except Fault (Option Int) :=
  match value with
  | .int n => .ok (some n)
  | .bool b => .ok (some (if b then 1 else 0))
  | .float (.infinite _) => .error .unconvertible
  | .float x => .ok x.truncate?
  | .str (.chars s) => .ok (int? s.toList)
  | _ => .ok none

/-- The time of a record. -/
def timeOf (fields : Json.Fields) : Except Fault (Option Instant) := do
  match fields.get? "__REALTIME_TIMESTAMP" with
  | none => return none
  | some value =>
    match ← microseconds value with
    | none => return none
    | some n =>
      let t : Instant := ⟨n⟩
      if t.inRange then return some t else throw .unconvertible

/-! ## Records -/

/-- The entry of a record. -/
def ofRecord (fields : Json.Fields) : Except Fault (Option Entry) := do
  match ← timeOf fields with
  | none => return none
  | some time =>
    let priority ← fieldNumber "PRIORITY" fields
    let pid ← fieldNumber "_PID" fields
    return some {
      time
      unit := field "_SYSTEMD_UNIT" fields
      priority
      hostname := field "_HOSTNAME" fields
      pid
      message := field "MESSAGE" fields
      cursor := field "__CURSOR" fields }

/-- What is accepted of the document on a line. -/
def lineLimits : Json.Limits := ⟨digitLimit, Json.depthLimit, true⟩

def ofLine (line : List Char) : Except Fault (Option Entry) :=
  if line.all isBlank then .ok none
  else
    match Json.read lineLimits line with
    | .ok (.obj fields) => ofRecord fields
    | .ok _ => .ok none
    | .error .malformed => .ok none
    | .error .tooDeep => .error .unconvertible

/-- The entries of an output, in order. -/
def ofOutput (output : String) : Except Fault (List Entry) := do
  let found ← (lines output.toList).mapM ofLine
  return found.filterMap id

/-! ## The command -/

/-- The printed form of the whole seconds at a bound. -/
def bound (seconds : Option Int) : String := toString (seconds.getD 0)

/-- The command that prints the entries of a window. -/
def command (most : Int) (w : Window) (threshold : Option Int) (unit : Option String) :
    List String :=
  ["journalctl", "--output=json", "--no-pager", "--utc",
    "--since=@" ++ bound w.start.seconds.floor?, "--until=@" ++ bound w.stop.seconds.ceil?,
    "--lines=" ++ toString most] ++
    (threshold.map fun n => "--priority=" ++ toString n).toList ++
    (unit.map fun name => "_SYSTEMD_UNIT=" ++ name).toList

def read (machine : Machine) (allowance : Allowance) (most : Int) (w : Window)
    (threshold : Option Int) (unit : Option String) : Run (List Entry) := do
  let output ← run machine allowance (command most w threshold unit)
  .ofExcept (ofOutput output)

end HostMonitor.Journal
