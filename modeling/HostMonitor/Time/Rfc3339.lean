import HostMonitor.Number.Reader
import HostMonitor.Time.Instant

/-!
# Timestamps

A timestamp is a date and a time of universal time with a `Z` at its end, such
as `2026-02-27T00:00:00.000Z`.  One is read with ASCII digits only and with one
to nine digits after the point, of which six count.  One is written with three.
Years before 1000 are written without leading zeros, so they do not read back.
-/

namespace HostMonitor.Time

open Number Text

/-! ## Reading -/

/-- A number of the given count of digits, with the text after it. -/
def fixedNumber? (count : Nat) (cs : List Char) : Option (Nat × List Char) :=
  let ds := cs.take count
  if ds.length = count && ds.all Char.isDigit then some (natOfDigits ds, cs.drop count) else none

/-- The text after a character it starts with. -/
def after? (c : Char) : List Char → Option (List Char)
  | d :: rest => if d = c then some rest else none
  | [] => none

/-- The microseconds that the end of a timestamp gives: nothing or a fraction,
and then the letter. -/
def fraction? : List Char → Option Nat
  | ['Z'] => some 0
  | '.' :: rest =>
    let ds := rest.takeWhile Char.isDigit
    if ds.isEmpty || ds.length > 9 || rest.dropWhile Char.isDigit != ['Z'] then none
    else some (natOfDigits ((ds ++ List.replicate 6 '0').take 6))
  | _ => none

def timestamp? (cs : List Char) : Option Instant := do
  let (year, cs) ← fixedNumber? 4 cs
  let cs ← after? '-' cs
  let (month, cs) ← fixedNumber? 2 cs
  let cs ← after? '-' cs
  let (day, cs) ← fixedNumber? 2 cs
  let cs ← after? 'T' cs
  let (hour, cs) ← fixedNumber? 2 cs
  let cs ← after? ':' cs
  let (minute, cs) ← fixedNumber? 2 cs
  let cs ← after? ':' cs
  let (second, cs) ← fixedNumber? 2 cs
  let micro ← fraction? cs
  let date : Date := ⟨year, month, day⟩
  let clock : Instant.Clock := ⟨hour, minute, second, micro⟩
  if date.isReal && clock.isReal then some (.of date clock) else none

/-! ## Writing -/

/-- The digits of a number, with zeros in front up to a width. -/
def padded (width n : Nat) : List Char :=
  let ds := Nat.toDigits 10 n
  List.replicate (width - ds.length) '0' ++ ds

/-- The timestamp of an instant of the calendar, cut to milliseconds. -/
def Instant.timestamp (t : Instant) : String :=
  let (d, c) := t.dateAndClock
  String.ofList
    (Nat.toDigits 10 d.year ++ '-' :: padded 2 d.month ++ '-' :: padded 2 d.day ++ 'T' ::
      padded 2 c.hour ++ ':' :: padded 2 c.minute ++ ':' :: padded 2 c.second ++ '.' ::
      padded 3 (c.micro / 1000) ++ ['Z'])

end HostMonitor.Time
