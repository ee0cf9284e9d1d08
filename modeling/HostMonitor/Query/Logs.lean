import HostMonitor.Query.Grep
import HostMonitor.Query.Services

/-!
# Listing entries of the journal

The arguments are brought to normal form before a source is asked.  Then the
entries that fit all of them are put in order of time, and the first of them are
returned with clean messages.  Entries of the same time keep the order in which
the source gave them, whichever way the list goes.

A source with a limit to its rows may have left out the oldest entries.  The list
says that it is not complete whenever the limit was reached.
-/

namespace HostMonitor.Query

open Journal Text Time

/-- The arguments of a list of entries, as they were given. -/
structure LogsRequest where
  start : Option WireText
  stop : Option WireText
  /-- The least urgent priority. -/
  priority : Json
  unit : Option WireText
  grep : Option WireText
  excludeUnits : List WireText
  order : Option WireText
  allowLargeWindow : Bool
  limit : Json
  deriving Repr

/-- The request for a window without any other argument. -/
def LogsRequest.within (start stop : String) : LogsRequest :=
  ⟨some start, some stop, .null, none, none, [], none, false, .null⟩

structure LogsQuery where
  window : Window
  /-- The least urgent priority. -/
  threshold : Option Int
  unit : Option String
  /-- The units to leave out, in small letters. -/
  excluded : List WireText
  order : Order
  matcher : Option Matcher
  limit : Int
  deriving Repr

/-- The normal form of the arguments. -/
def LogsRequest.query (names : Pattern.CharNames) (r : LogsRequest) : Except Fault LogsQuery := do
  let window ← checked (Query.window r.start r.stop r.allowLargeWindow)
  let threshold ← checked (Query.threshold r.priority)
  let unit ← checked (unitFilter r.unit)
  let excluded ← checked (r.excludeUnits.mapM unitName)
  let order ← checked (Query.order r.order)
  let matcher ← Query.matcher names r.grep
  let limit ← checked (Query.limit r.limit standardEntries mostEntries)
  return ⟨window, threshold, unit, excluded.map fun name => (lower name : WireText), order,
    matcher, limit⟩
where
  checked {α : Type} (c : Checked α) : Except Fault α := c.mapError .reported

namespace LogsQuery

def admitsPriority (q : LogsQuery) (priority : Option Int) : Bool :=
  match q.threshold, priority with
  | none, _ => true
  | some _, none => false
  | some most, some n => decide (n ≤ most)

/-- The unit is the one asked for. -/
def admitsUnit (q : LogsQuery) (unit : Option WireText) : Bool :=
  match q.unit with
  | none => true
  | some name => unit == some (.chars name)

/-- The unit is left out.  An entry without a unit never is. -/
def excludes (q : LogsQuery) (unit : Option WireText) : Bool :=
  match unit with
  | none => false
  | some name => q.excluded.contains name.lower

/-- The clean message is chosen. -/
def admitsMessage (q : LogsQuery) (message : Option WireText) : Bool :=
  match q.matcher, message with
  | none, _ => true
  | some _, none => false
  | some m, some text => m.chooses text

/-- The entry with its message in clean form, if it fits the query. -/
def select (q : LogsQuery) (e : Entry) : Option Entry :=
  let message := e.message.bind cleaned
  if q.window.contains e.time && q.admitsPriority e.priority && q.admitsUnit e.unit &&
      !q.excludes e.unit && q.admitsMessage message then
    some { e with message }
  else none

/-- The first entry may stand before the second. -/
def before (q : LogsQuery) (a b : Entry) : Bool :=
  match q.order with
  | .ascending => decide (a.time ≤ b.time)
  | .descending => decide (b.time ≤ a.time)

end LogsQuery

/-- A list of entries. -/
structure LogsPage where
  entries : List Entry
  /-- How many rows the source gave. -/
  scanned : Nat
  /-- Some of the entries that fit are not in the list, or may not be. -/
  truncated : Bool
  generatedAt : Instant
  window : Window
  deriving DecidableEq, Repr

namespace LogsPage

def returned (p : LogsPage) : Nat := p.entries.length

def document (p : LogsPage) : Json :=
  .record [("entries", .arr (p.entries.map Entry.document)), ("total_scanned", .ofNat p.scanned),
    ("returned", .ofNat p.returned), ("truncated", .bool p.truncated),
    ("generated_at_utc", .ofString p.generatedAt.timestamp),
    ("window", .record [("start_utc", .ofString p.window.start.timestamp),
      ("end_utc", .ofString p.window.stop.timestamp)])]

end LogsPage

/-- A read gave as many rows as it may. -/
def isScanCapped (scanLimit : Option Int) (rows : Nat) : Bool :=
  match scanLimit with
  | some most => decide (most ≤ rows)
  | none => false

/-- The list that a query makes of the rows of a source. -/
def LogsQuery.page (q : LogsQuery) (now : Instant) (scanLimit : Option Int)
    (rows : List Entry) : LogsPage :=
  let matched := (rows.filterMap q.select).mergeSort q.before
  let entries := matched.take q.limit.toNat
  ⟨entries, rows.length,
    isScanCapped scanLimit rows.length || decide (matched.length > entries.length), now, q.window⟩

/-- Writes to the log that a read gave as many rows as it may. -/
def noteScanLimit (scanLimit : Option Int) (rows : Nat) : Run Unit :=
  match scanLimit with
  | some most => if most ≤ rows then .note (.scanLimitReached most) else .done ()
  | none => .done ()

def listLogs (s : Sources) (now : Instant) (r : LogsRequest) : Run LogsPage := do
  let q ← .ofExcept (r.query s.charNames)
  let rows ← s.askLogs q.window q.threshold q.unit
  noteScanLimit s.scanLimit rows.length
  return q.page now s.scanLimit rows

def hourMicros : Int := 3600000000

/-- The entries of the last hour.  There is none in the first hour of the
calendar. -/
def recentLogs (s : Sources) (now : Instant) : Run LogsPage :=
  match now.later? (-hourMicros) with
  | some start => listLogs s now (.within start.timestamp now.timestamp)
  | none => .fail .unconvertible

end HostMonitor.Query
