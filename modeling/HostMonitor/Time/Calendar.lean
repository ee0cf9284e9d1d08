/-!
# The calendar

Dates of the Gregorian calendar, carried back to the year one.  `dayNumber`
counts the days from the first of January of the year one, and `dateOf` finds
the date of a count: four centuries, a century, four years and a year have fixed
lengths from that day on, up to a leap day at their end.
-/

namespace HostMonitor.Time

structure Date where
  year : Nat
  /-- The month, from one. -/
  month : Nat
  /-- The day of the month, from one. -/
  day : Nat
  deriving DecidableEq, Repr

def isLeap (year : Nat) : Bool :=
  year % 4 == 0 && (year % 100 != 0 || year % 400 == 0)

/-- The lengths of the months of a year. -/
def monthLengths (leap : Bool) : List Nat :=
  [31, if leap then 29 else 28, 31, 30, 31, 30, 31, 31, 30, 31, 30, 31]

/-- The length of a month; zero for what is no month. -/
def daysInMonth (year month : Nat) : Nat :=
  if month = 0 then 0 else (monthLengths (isLeap year))[month - 1]?.getD 0

/-- The date stands in the calendar, in one of the years from one to 9999. -/
def Date.isReal (d : Date) : Bool :=
  decide (1 ≤ d.year) && decide (d.year ≤ 9999) && decide (1 ≤ d.day) &&
    decide (d.day ≤ daysInMonth d.year d.month)

/-- The days before the first day of a year. -/
def daysBeforeYear (year : Nat) : Nat :=
  let y := year - 1
  365 * y + y / 4 - y / 100 + y / 400

/-- The days before a date. -/
def dayNumber (d : Date) : Nat :=
  daysBeforeYear d.year + ((monthLengths (isLeap d.year)).take (d.month - 1)).foldl (· + ·) 0 +
    (d.day - 1)

/-- The month and the day that lie a number of days after the start of a list of
months, the first of which has the given number. -/
def monthAndDay (month days : Nat) : List Nat → Nat × Nat
  | [] => (month, days + 1)
  | length :: more =>
    if days < length then (month, days + 1) else monthAndDay (month + 1) (days - length) more

/-- The date with the given number of days before it. -/
def dateOf (days : Nat) : Date :=
  let fourCenturies := days / 146097
  let r := days % 146097
  let centuries := min (r / 36524) 3
  let r := r - centuries * 36524
  let fourYears := r / 1461
  let r := r % 1461
  let years := min (r / 365) 3
  let r := r - years * 365
  let year := 400 * fourCenturies + 100 * centuries + 4 * fourYears + years + 1
  let (month, day) := monthAndDay 1 r (monthLengths (isLeap year))
  ⟨year, month, day⟩

end HostMonitor.Time
