import HostMonitor.Pattern.Token
import HostMonitor.Query.Arguments
import HostMonitor.Run.Basic
import HostMonitor.Service.Listing

/-!
# Sources of queries, and the list of services

Queries ask two sources, one for the units and one for the entries of a window.
The second may leave out entries that a query would drop, and it may have a limit
to the number of rows it gives.

The arguments of a list of services are brought to normal form before a source is
asked.  Then the units in the given state whose names hold the given fragment are
put in the order of their names, and the first of them are returned.  A list of
failed units puts units that have failed before all others.
-/

namespace HostMonitor.Query

open Journal Service Text Time

/-! ## Sources -/

/-- What queries ask. -/
structure Sources where
  units : Run (List ServiceUnit)
  /-- The entries of a window, at most as urgent as the threshold and of the
  given unit. -/
  logs : Window → Option Int → Option String → Run (List Entry)
  /-- The most rows that a read of entries gives. -/
  scanLimit : Option Int
  /-- The table in which patterns look up the names of characters. -/
  charNames : Pattern.CharNames

def Sources.askUnits (s : Sources) : Run (List ServiceUnit) := do
  .cause .unitsAsked
  s.units

def Sources.askLogs (s : Sources) (w : Window) (threshold : Option Int) (unit : Option String) :
    Run (List Entry) := do
  .cause (.logsAsked w threshold unit)
  s.logs w threshold unit

/-! ## Services -/

/-- The arguments of a list of services, as they were given. -/
structure ServicesRequest where
  state : Option WireText
  nameContains : Option WireText
  limit : Json
  deriving Repr

/-- The request without arguments. -/
def ServicesRequest.all : ServicesRequest := ⟨none, none, .null⟩

/-- The request for failed services. -/
def ServicesRequest.failed : ServicesRequest := ⟨some "failed", none, .null⟩

structure ServicesQuery where
  state : Option String
  fragment : Option WireText
  limit : Int
  deriving Repr

/-- The normal form of the arguments. -/
def ServicesRequest.query (r : ServicesRequest) : Checked ServicesQuery := do
  let state ← serviceState r.state
  let limit ← Query.limit r.limit standardServices mostServices
  return ⟨state, nameFragment r.nameContains, limit⟩

/-- The unit is one of those asked for. -/
def ServicesQuery.selects (q : ServicesQuery) (u : ServiceUnit) : Bool :=
  (match q.state with
    | some state => lower u.activeState == state
    | none => true) &&
  match q.fragment with
  | some fragment => holdsFragment u.name fragment
  | none => true

/-- The unit has failed. -/
def hasFailed (u : ServiceUnit) : Bool := lower u.activeState == "failed"

/-- The first unit may stand before the second, where failed units come first. -/
def failedFirst (a b : ServiceUnit) : Bool :=
  if hasFailed a == hasFailed b then nameLE a b else hasFailed a

/-- The first unit may stand before the second in the list. -/
def ServicesQuery.before (q : ServicesQuery) (a b : ServiceUnit) : Bool :=
  if q.state == some "failed" then failedFirst a b else nameLE a b

/-- A list of services. -/
structure ServicesPage where
  services : List ServiceUnit
  /-- How many services were selected. -/
  total : Nat
  generatedAt : Instant
  deriving DecidableEq, Repr

namespace ServicesPage

def returned (p : ServicesPage) : Nat := p.services.length

/-- Some of the selected services are not in the list. -/
def truncated (p : ServicesPage) : Bool := decide (p.total > p.returned)

def document (p : ServicesPage) : Json :=
  .record [("services", .arr (p.services.map ServiceUnit.document)), ("total", .ofNat p.total),
    ("returned", .ofNat p.returned), ("truncated", .bool p.truncated),
    ("generated_at_utc", .ofString p.generatedAt.timestamp)]

end ServicesPage

/-- The list that a query makes of units. -/
def ServicesQuery.page (q : ServicesQuery) (now : Instant) (units : List ServiceUnit) :
    ServicesPage :=
  let selected := (units.filter q.selects).mergeSort q.before
  ⟨selected.take q.limit.toNat, selected.length, now⟩

/-- The services of the host. -/
def listServices (s : Sources) (now : Instant) (r : ServicesRequest) : Run ServicesPage := do
  let q ← .ofChecked r.query
  let units ← s.askUnits
  return q.page now units

end HostMonitor.Query
