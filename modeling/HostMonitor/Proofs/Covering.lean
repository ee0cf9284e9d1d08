import HostMonitor.Proofs.Commands

/-!
# What the bounds of a command cover

The command that reads the journal has whole seconds for bounds, and they are found
from rounded seconds.  Each is less than a second outside the window.  It is not inside
either, unless the window begins or ends so close to a whole second that rounding
reaches that second: no further than `slack`.
-/

namespace HostMonitor.Journal

open Time

/-- How the whole seconds from `since` to `till` lie about a window.  They are at most a
second too far out, and not too far in unless the slack leads over a whole second. -/
structure Window.Bounded (w : Window) (since till : Int) : Prop where
  slack_le : w.start.slack ≤ 15 ∧ w.stop.slack ≤ 15
  start_lt : w.start.micros < (since + 1) * 1000000
  lt_stop : (till - 1) * 1000000 < w.stop.micros
  le_start_iff : since * 1000000 ≤ w.start.micros ↔
    w.start.micros % 1000000 + w.start.slack < 1000000
  stop_le_iff : w.stop.micros ≤ till * 1000000 ↔
    w.stop.micros % 1000000 = 0 ∨ w.stop.slack < w.stop.micros % 1000000
  /-- Nothing further inside the window than the slack is left out. -/
  near : ∀ t, w.contains t = true →
    since * 1000000 ≤ t.micros + w.start.slack ∧ t.micros ≤ till * 1000000 + w.stop.slack
  /-- Nothing is left out in the years from 1426 to 2513. -/
  covers : w.start.micros.natAbs < 1000000 * 2 ^ 34 → w.stop.micros.natAbs < 1000000 * 2 ^ 34 →
    ∀ t, w.contains t = true → since * 1000000 ≤ t.micros ∧ t.micros ≤ till * 1000000

theorem contains_iff {w : Window} {t : Instant} :
    w.contains t = true ↔ w.start.micros ≤ t.micros ∧ t.micros ≤ w.stop.micros := by
  rw [Window.contains, Bool.and_eq_true, decide_eq_true_eq, decide_eq_true_eq]
  rfl

theorem bounded_of_slack {w : Window} (few : w.start.slack ≤ 15) (few' : w.stop.slack ≤ 15) :
    w.Bounded ((w.start.micros + w.start.slack) / 1000000)
      (-((w.stop.slack - w.stop.micros) / 1000000)) where
  slack_le := ⟨few, few'⟩
  start_lt := by
    have first := w.start.slack_nonneg
    omega
  lt_stop := by
    have last := w.stop.slack_nonneg
    omega
  le_start_iff := by omega
  stop_le_iff := by
    have last := w.stop.slack_nonneg
    omega
  near := by
    intro t inside
    have bounds := contains_iff.mp inside
    constructor
    · omega
    · omega
  covers := by
    intro near near' t inside
    have bounds := contains_iff.mp inside
    rw [Instant.slack_eq_zero near, Instant.slack_eq_zero near']
    constructor
    · omega
    · omega

/-- The command for a window that is accepted is bounded by whole seconds about it. -/
theorem command_bounds {start stop : Option Text.WireText} {large : Bool} {w : Window}
    (accepted : Query.window start stop large = .ok w) (most : Int) (threshold : Option Int)
    (unit : Option String) :
    ∃ since till : Int, w.Bounded since till ∧
      command most w threshold unit = ["journalctl", "--output=json", "--no-pager", "--utc",
        "--since=@" ++ toString since, "--until=@" ++ toString till, "--lines=" ++ toString most] ++
        (threshold.map fun n => "--priority=" ++ toString n).toList ++
        (unit.map fun name => "_SYSTEMD_UNIT=" ++ name).toList := by
  obtain ⟨first, last, _⟩ := Query.window_eq_ok accepted
  have near := Query.instant_near first
  have near' := Query.instant_near last
  refine ⟨_, _, bounded_of_slack (Instant.slack_le_fifteen near)
    (Instant.slack_le_fifteen near'), ?_⟩
  rw [command, Instant.floor?_seconds near, Instant.ceil?_seconds near']
  rfl

/-- The two microseconds about the start of 1970. -/
def aboutEpoch : Window := ⟨⟨-1⟩, ⟨1⟩⟩

theorem window_aboutEpoch : Query.window (some "1969-12-31T23:59:59.999999Z")
    (some "1970-01-01T00:00:00.000001Z") false = .ok aboutEpoch := by
  have first : timestamp? (Text.trim "1969-12-31T23:59:59.999999Z".toList) = some ⟨-1⟩ := by
    decide +kernel
  have last : timestamp? (Text.trim "1970-01-01T00:00:00.000001Z".toList) = some ⟨1⟩ := by
    decide +kernel
  rw [Query.window, Query.instant_of_timestamp first, Query.instant_of_timestamp last]
  rfl

/-- On both sides of the start of 1970, the bounds are the next whole seconds outward. -/
theorem command_bounds_aboutEpoch :
    Query.window (some "1969-12-31T23:59:59.999999Z") (some "1970-01-01T00:00:00.000001Z") false =
        .ok aboutEpoch ∧
      aboutEpoch.Bounded (-1) 1 ∧
      command 10000 aboutEpoch none (some "a.service") = ["journalctl", "--output=json",
        "--no-pager", "--utc", "--since=@-1", "--until=@1", "--lines=10000",
        "_SYSTEMD_UNIT=a.service"] := by
  obtain ⟨since, till, bounded, same⟩ :=
    command_bounds window_aboutEpoch 10000 none (some "a.service")
  have none : aboutEpoch.start.slack = 0 ∧ aboutEpoch.stop.slack = 0 :=
    ⟨Instant.slack_eq_zero (by decide), Instant.slack_eq_zero (by decide)⟩
  have low := bounded.start_lt
  have high := bounded.lt_stop
  have first := bounded.le_start_iff
  have last := bounded.stop_le_iff
  rw [none.1] at first
  rw [none.2] at last
  simp only [aboutEpoch] at low high first last
  obtain rfl : since = -1 := by omega
  obtain rfl : till = 1 := by omega
  exact ⟨window_aboutEpoch, bounded, same⟩

/-- An hour of the last day of the calendar, a microsecond longer on either side. -/
def lateHour : Window := ⟨⟨253402214400999999⟩, ⟨253402218000000001⟩⟩

/-- The bounds stand inside the window, so its first and its last instant are cut off. -/
theorem command_lateHour :
    Query.window (some "9999-12-31T00:00:00.999999Z") (some "9999-12-31T01:00:00.000001Z") false =
        .ok lateHour ∧
      command 10000 lateHour none none = ["journalctl", "--output=json", "--no-pager", "--utc",
        "--since=@253402214401", "--until=@253402218000", "--lines=10000"] ∧
      lateHour.start.micros < 253402214401 * 1000000 ∧
      253402218000 * 1000000 < lateHour.stop.micros := by
  exact ⟨rfl, rfl, by decide, by decide⟩

end HostMonitor.Journal
