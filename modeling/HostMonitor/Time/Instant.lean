import HostMonitor.Number.Binary64
import HostMonitor.Time.Calendar

/-!
# Instants

An instant is a number of microseconds since the start of 1970, in universal
time.  The calendar reaches from the year one to the year 9999, and `inRange`
holds of the instants in it.

The host speaks of seconds, some of them with a fraction.  `ofSeconds?` rounds
such a number to microseconds, and `seconds` gives the floating point number
nearest to an instant.
-/

namespace HostMonitor.Time

open Number

structure Instant where
  /-- The microseconds since the start of 1970. -/
  micros : Int
  deriving DecidableEq, Repr

namespace Instant

instance : LE Instant := ⟨fun a b => a.micros ≤ b.micros⟩

instance : LT Instant := ⟨fun a b => a.micros < b.micros⟩

instance (a b : Instant) : Decidable (a ≤ b) := inferInstanceAs (Decidable (a.micros ≤ b.micros))

instance (a b : Instant) : Decidable (a < b) := inferInstanceAs (Decidable (a.micros < b.micros))

def dayMicros : Int := 86400000000

/-- The days from the start of the year one to the start of 1970. -/
def epochDays : Int := 719162

def first : Instant := ⟨-62135596800000000⟩

def last : Instant := ⟨253402300799999999⟩

/-- The instant lies in the calendar. -/
def inRange (t : Instant) : Bool := decide (first ≤ t) && decide (t ≤ last)

/-- The instant a number of microseconds later, if it lies in the calendar. -/
def later? (t : Instant) (micros : Int) : Option Instant :=
  let u : Instant := ⟨t.micros + micros⟩
  if u.inRange then some u else none

/-! ## Dates and times of day -/

structure Clock where
  hour : Nat
  minute : Nat
  second : Nat
  micro : Nat
  deriving DecidableEq, Repr

/-- The time is one of a day of twenty-four hours. -/
def Clock.isReal (c : Clock) : Bool :=
  decide (c.hour < 24) && decide (c.minute < 60) && decide (c.second < 60) &&
    decide (c.micro < 1000000)

def Clock.micros (c : Clock) : Nat :=
  ((c.hour * 60 + c.minute) * 60 + c.second) * 1000000 + c.micro

/-- The instant of a date and a time. -/
def of (d : Date) (c : Clock) : Instant :=
  ⟨((dayNumber d : Int) - epochDays) * dayMicros + c.micros⟩

/-- The date and the time of an instant of the calendar. -/
def dateAndClock (t : Instant) : Date × Clock :=
  let sinceFirst := (t.micros - first.micros).toNat
  let micros := sinceFirst % 86400000000
  (dateOf (sinceFirst / 86400000000),
    ⟨micros / 3600000000, micros / 60000000 % 60, micros / 1000000 % 60, micros % 1000000⟩)

/-! ## Seconds -/

/-- The seconds of an instant, rounded to a floating point number. -/
def seconds (t : Instant) : Binary64 :=
  Binary64.ofRatio (decide (t.micros < 0)) t.micros.natAbs 1000000

/-- A fraction of a second in microseconds.  It is scaled as a floating point number
and then rounded, a half to the even microsecond. -/
def fractionMicros? (num den : Nat) : Option Nat :=
  match Binary64.ofRatio false (1000000 * num) den with
  | .finite _ m e =>
    let scaled := Binary64.ratio m e
    some (roundDiv scaled.1 scaled.2)
  | _ => none

/-- The instant of a positive number of seconds, if it lies in the calendar. -/
def ofSeconds? : Binary64 → Option Instant
  | .finite _ mantissa exponent =>
    let parts := Binary64.ratio mantissa exponent
    (fractionMicros? (parts.1 % parts.2) parts.2).bind fun micros =>
      let t : Instant := ⟨(parts.1 / parts.2 : Nat) * 1000000 + micros⟩
      if t.inRange then some t else none
  | _ => none

end Instant

end HostMonitor.Time
