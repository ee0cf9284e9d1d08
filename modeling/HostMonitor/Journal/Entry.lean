import HostMonitor.Json.Basic
import HostMonitor.Time.Rfc3339

/-!
# Entries of the journal

An entry is one message in the journal of the host, with the time at which it
was written.  All else about it may be missing.  A window is a closed interval
of time.
-/

namespace HostMonitor.Journal

open Text Time

structure Entry where
  time : Instant
  unit : Option WireText
  /-- How urgent it is: zero is the most urgent. -/
  priority : Option Int
  hostname : Option WireText
  pid : Option Int
  message : Option WireText
  /-- Its place in the journal. -/
  cursor : Option WireText
  deriving DecidableEq, Repr

def Entry.document (e : Entry) : Json :=
  .record [("timestamp_utc", .ofString e.time.timestamp), ("unit", .ofText? e.unit),
    ("priority", .ofInt? e.priority), ("hostname", .ofText? e.hostname),
    ("pid", .ofInt? e.pid), ("message", .ofText? e.message), ("cursor", .ofText? e.cursor)]

structure Window where
  start : Instant
  stop : Instant
  deriving DecidableEq, Repr

def Window.contains (w : Window) (t : Instant) : Bool :=
  decide (w.start ≤ t) && decide (t ≤ w.stop)

end HostMonitor.Journal
