import HostMonitor.Proofs.Calendar
import HostMonitor.Proofs.Dates
import Mathlib.Data.List.Lex
import Mathlib.Data.List.TakeWhile

/-!
# Times that texts tell

A time of universal time is written as a date, a `T`, a time of day and a `Z`.  All numbers
have a fixed width, but for a fraction of the second, which has up to nine digits or is not
there.  `Tells` says that a text is such a time with blanks around it, and that the time is
one of the calendar and of a day.

A bound is read of exactly these texts, as the instant of the time that is told.  What is
finer than microseconds is cut off, so of two times the later one is never read as the
earlier instant.
-/

namespace HostMonitor

namespace Time

open Number Text

/-! ## Times -/

/-- A date and a time of day, as they are written. -/
structure UtcTime where
  date : Date
  hour : Nat
  minute : Nat
  second : Nat
  /-- The billionths of a second. -/
  nano : Nat

namespace UtcTime

/-- The time is one of the calendar and of a day. -/
structure Stands (u : UtcTime) : Prop where
  date : u.date.Stands
  hour : u.hour ≤ 23
  minute : u.minute ≤ 59
  second : u.second ≤ 59
  nano : u.nano ≤ 999999999

/-- The parts of a time, the greatest first. -/
def parts (u : UtcTime) : List Nat :=
  [u.date.year, u.date.month, u.date.day, u.hour, u.minute, u.second, u.nano]

/-- The billionths of a second from the start of 1970 to the time. -/
def nanos (u : UtcTime) : Int :=
  (((u.date.daysBefore : Int) - (⟨1970, 1, 1⟩ : Date).daysBefore) * 86400 +
    ((u.hour * 60 + u.minute) * 60 + u.second : Nat)) * 1000000000 + u.nano

/-- The time without what is finer than microseconds. -/
def toMicros (u : UtcTime) : UtcTime := { u with nano := u.nano / 1000 * 1000 }

theorem Stands.toMicros {u : UtcTime} (stands : u.Stands) : u.toMicros.Stands :=
  { stands with nano := Nat.le_trans (Nat.div_mul_le_self _ _) stands.nano }

theorem nanos_toMicros (u : UtcTime) : u.toMicros.nanos = u.nanos / 1000 * 1000 := by
  simp only [nanos, toMicros]
  omega

theorem parts_lt_iff {u v : UtcTime} :
    u.parts < v.parts ↔
      (u.date.year < v.date.year ∨ u.date.year = v.date.year ∧
        (u.date.month < v.date.month ∨ u.date.month = v.date.month ∧
          u.date.day < v.date.day)) ∨
      u.date = v.date ∧ (u.hour < v.hour ∨ u.hour = v.hour ∧ (u.minute < v.minute ∨
        u.minute = v.minute ∧ (u.second < v.second ∨ u.second = v.second ∧ u.nano < v.nano))) := by
  obtain ⟨⟨y, m, d⟩, h, n, s, f⟩ := u
  obtain ⟨⟨y', m', d'⟩, h', n', s', f'⟩ := v
  simp only [parts, List.cons_lt_cons_iff, List.lt_irrefl, and_false, or_false, Date.mk.injEq]
  tauto

/-- Of two times the one with the lower greatest part is the earlier one. -/
theorem Stands.nanos_lt {u v : UtcTime} (stands : u.Stands) (before : u.parts < v.parts) :
    u.nanos < v.nanos := by
  obtain ⟨date, hour, minute, second, nano⟩ := stands
  rcases parts_lt_iff.mp before with earlier | ⟨same, earlier⟩
  · have days := date.daysBefore_lt earlier
    simp only [nanos]
    omega
  · simp only [nanos, same]
    omega

/-- The order of times is that of their parts. -/
theorem nanos_lt_iff {u v : UtcTime} (stands : u.Stands) (stands' : v.Stands) :
    u.nanos < v.nanos ↔ u.parts < v.parts := by
  refine ⟨fun less => ?_, stands.nanos_lt⟩
  rcases lt_trichotomy u.parts v.parts with before | same | after
  · exact before
  · have equal : u = v := by
      obtain ⟨⟨y, m, d⟩, h, n, s, f⟩ := u
      obtain ⟨⟨y', m', d'⟩, h', n', s', f'⟩ := v
      simpa [parts, and_assoc] using same
    rw [equal] at less
    exact absurd less (Int.lt_irrefl _)
  · exact absurd (stands'.nanos_lt after) (Int.not_lt.mpr (Int.le_of_lt less))

end UtcTime

/-! ## The grammar of times -/

/-- The end of a time, with the billionths of a second. -/
inductive Ending : List Char → Nat → Prop
  | whole : Ending ['Z'] 0
  | part {count n : Nat} {ds : List Char} : 1 ≤ count → count ≤ 9 → Spelled count n ds →
      Ending ('.' :: (ds ++ ['Z'])) (n * 10 ^ (9 - count))

/-- The text is the time in its written form. -/
inductive Written : List Char → UtcTime → Prop
  | intro {u : UtcTime} {ys ms ds hs ns ss es : List Char} :
      Spelled 4 u.date.year ys → Spelled 2 u.date.month ms → Spelled 2 u.date.day ds →
      Spelled 2 u.hour hs → Spelled 2 u.minute ns → Spelled 2 u.second ss → Ending es u.nano →
      Written (ys ++ '-' :: (ms ++ '-' :: (ds ++ 'T' :: (hs ++ ':' :: (ns ++ ':' ::
        (ss ++ es)))))) u

/-- The text is a time that stands, with blanks around it. -/
def Tells (cs : List Char) (u : UtcTime) : Prop :=
  ∃ before body after, cs = before ++ (body ++ after) ∧ (∀ c ∈ before, isBlank c = true) ∧
    (∀ c ∈ after, isBlank c = true) ∧ Written body u ∧ u.Stands

theorem Tells.stands {cs : List Char} {u : UtcTime} (tells : Tells cs u) : u.Stands := by
  obtain ⟨_, _, _, _, _, _, _, stands⟩ := tells
  exact stands

/-! ## Numbers -/

theorem Spelled.lt {count n : Nat} {ds : List Char} (h : Spelled count n ds) : n < 10 ^ count := by
  rw [← h.value, ← h.length]
  exact natOfDigits_lt h.digits

/-- The first six of up to nine digits, filled up with zeros, are the millionths. -/
theorem natOfDigits_six {count n : Nat} {ds : List Char} (h : Spelled count n ds)
    (few : count ≤ 9) :
    natOfDigits ((ds ++ List.replicate 6 '0').take 6) = n * 10 ^ (9 - count) / 1000 := by
  obtain ⟨rfl, digits, rfl⟩ := h
  -- up to six digits are filled up, and what is after the sixth digit is cut off
  rcases Nat.le_total ds.length 6 with short | long
  · have filled : (ds ++ List.replicate 6 '0').take 6 =
        ds ++ List.replicate (6 - ds.length) '0' := by
      rw [List.take_append, List.take_of_length_le short, List.take_replicate]
      simp
    have zeros : 9 - ds.length = 6 - ds.length + 3 := by omega
    rw [filled, natOfDigits_append_zeros, zeros, Nat.pow_add, ← Nat.mul_assoc]
    exact (Nat.mul_div_cancel _ (by decide)).symm
  · have cut : (ds ++ List.replicate 6 '0').take 6 = ds.take 6 := List.take_append_of_le_length long
    have rest : natOfDigits (ds.drop 6) < 10 ^ (ds.length - 6) := by
      have digits' : ∀ c ∈ ds.drop 6, c.isDigit = true :=
        fun c mem => digits c (List.mem_of_mem_drop mem)
      simpa using natOfDigits_lt digits'
    have whole := natOfDigits_append (ds.take 6) (ds.drop 6)
    rw [List.take_append_drop, List.length_drop] at whole
    have thousand : 1000 = 10 ^ (ds.length - 6) * 10 ^ (9 - ds.length) := by
      rw [← Nat.pow_add, show ds.length - 6 + (9 - ds.length) = 3 by omega]
    rw [cut, thousand, Nat.mul_div_mul_right _ _ (Nat.pow_pos (by decide)), whole, Nat.mul_comm,
      Nat.mul_add_div (Nat.pow_pos (by decide)), Nat.div_eq_of_lt rest, Nat.add_zero]

/-! ## What is read -/

theorem fixedNumber?_eq_some_iff {count n : Nat} {cs rest : List Char} :
    fixedNumber? count cs = some (n, rest) ↔ ∃ ds, Spelled count n ds ∧ cs = ds ++ rest := by
  constructor
  · intro h
    rw [fixedNumber?] at h
    split at h
    · next digits =>
        cases h
        rw [Bool.and_eq_true, decide_eq_true_eq, List.all_eq_true] at digits
        exact ⟨cs.take count, ⟨digits.1, digits.2, rfl⟩, (List.take_append_drop _ _).symm⟩
    · cases h
  · rintro ⟨ds, spelled, same⟩
    rw [same]
    exact fixedNumber?_append spelled rest

theorem after?_eq_some_iff {c : Char} {cs rest : List Char} :
    after? c cs = some rest ↔ cs = c :: rest := by
  cases cs with
  | nil => simp [after?]
  | cons d ds => simp [after?]

theorem fraction?_eq_some_iff {cs : List Char} {micro : Nat} :
    fraction? cs = some micro ↔ ∃ nano, Ending cs nano ∧ micro = nano / 1000 := by
  constructor
  · intro h
    unfold fraction? at h
    split at h
    · cases h
      exact ⟨0, .whole, rfl⟩
    · next rest =>
        dsimp only at h
        split at h
        · cases h
        · next fine =>
            cases h
            simp only [Bool.or_eq_true, List.isEmpty_iff, decide_eq_true_eq, bne_iff_ne, ne_eq,
              not_or, not_not] at fine
            obtain ⟨⟨filled, few⟩, closed⟩ := fine
            have spelled : Spelled _ _ (rest.takeWhile Char.isDigit) :=
              ⟨rfl, fun c => List.mem_takeWhile_imp, rfl⟩
            have ending := Ending.part (List.length_pos_of_ne_nil filled) (Nat.not_lt.mp few)
              spelled
            rw [← closed, List.takeWhile_append_dropWhile] at ending
            exact ⟨_, ending, natOfDigits_six spelled (Nat.not_lt.mp few)⟩
    · cases h
  · rintro ⟨nano, ending, same⟩
    rw [same]
    cases ending with
    | whole => rfl
    | @part count n ds filled few spelled =>
        have run : (ds ++ ['Z']).takeWhile Char.isDigit = ds := by
          rw [List.takeWhile_append_of_pos spelled.digits, List.takeWhile_cons_of_neg (by decide),
            List.append_nil]
        have rest : (ds ++ ['Z']).dropWhile Char.isDigit = ['Z'] := by
          rw [List.dropWhile_append_of_pos spelled.digits, List.dropWhile_cons_of_neg (by decide)]
        have some : ds.isEmpty = false := by
          rw [List.isEmpty_eq_false_iff, ← List.length_pos_iff, spelled.length]
          exact filled
        rw [fraction?, run, rest, some, spelled.length, natOfDigits_six spelled few]
        simp [Nat.not_lt.mpr few]

theorem daysBefore_epoch : (⟨1970, 1, 1⟩ : Date).daysBefore = 719162 := by
  have stands : (⟨1970, 1, 1⟩ : Date).Stands := ⟨by decide, by decide, by decide⟩
  exact (dayNumber_eq stands).symm

namespace UtcTime

/-- The instant of a time, cut to microseconds. -/
def instant (u : UtcTime) : Instant := .of u.date ⟨u.hour, u.minute, u.second, u.nano / 1000⟩

theorem micros_instant {u : UtcTime} (date : u.date.Stands) :
    u.instant.micros = u.nanos / 1000 := by
  simp only [instant, Instant.of, Instant.Clock.micros, Instant.epochDays, Instant.dayMicros,
    nanos, dayNumber_eq date, daysBefore_epoch]
  omega

theorem eq_instant_iff {u : UtcTime} (date : u.date.Stands) {t : Instant} :
    t = u.instant ↔ t.micros = u.nanos / 1000 := by
  rw [← micros_instant date]
  cases t
  cases u.instant
  simp

theorem stands_iff {u : UtcTime} (nano : u.nano ≤ 999999999) :
    u.Stands ↔ u.date.isReal = true ∧
      Instant.Clock.isReal ⟨u.hour, u.minute, u.second, u.nano / 1000⟩ = true := by
  simp only [Date.isReal_iff, Instant.Clock.isReal, Bool.and_eq_true, decide_eq_true_eq]
  constructor
  · rintro ⟨date, hour, minute, second, _⟩
    exact ⟨date, by omega⟩
  · rintro ⟨date, clock⟩
    exact ⟨date, by omega, by omega, by omega, nano⟩

end UtcTime

theorem Ending.le {es : List Char} {nano : Nat} (h : Ending es nano) : nano ≤ 999999999 := by
  cases h with
  | whole => decide
  | @part count n ds _ few spelled =>
      have scale : 0 < 10 ^ (9 - count) := Nat.pow_pos (by decide)
      have bound := Nat.mul_lt_mul_of_pos_right spelled.lt scale
      rw [← Nat.pow_add, Nat.add_sub_of_le few] at bound
      omega

section

variable {α : Type} {count : Nat} {mark : Char} {cs : List Char} {a : α}

/-- A number is read and then the rest. -/
theorem bind_number_eq_some_iff {next : Nat × List Char → Option α} :
    (fixedNumber? count cs >>= next) = some a ↔
      ∃ n ds rest, Spelled count n ds ∧ cs = ds ++ rest ∧ next (n, rest) = some a := by
  rw [Option.bind_eq_bind, Option.bind_eq_some_iff, Prod.exists]
  simp only [fixedNumber?_eq_some_iff]
  constructor
  · rintro ⟨n, rest, ⟨ds, spelled, same⟩, read⟩
    exact ⟨n, ds, rest, spelled, same, read⟩
  · rintro ⟨n, ds, rest, spelled, same, read⟩
    exact ⟨n, rest, ⟨ds, spelled, same⟩, read⟩

/-- A mark is read and then the rest. -/
theorem bind_mark_eq_some_iff {next : List Char → Option α} :
    (after? mark cs >>= next) = some a ↔ ∃ rest, cs = mark :: rest ∧ next rest = some a := by
  rw [Option.bind_eq_bind, Option.bind_eq_some_iff]
  simp only [after?_eq_some_iff]

/-- The end of a time is read. -/
theorem bind_ending_eq_some_iff {next : Nat → Option α} :
    (fraction? cs >>= next) = some a ↔
      ∃ nano, Ending cs nano ∧ next (nano / 1000) = some a := by
  rw [Option.bind_eq_bind, Option.bind_eq_some_iff]
  simp only [fraction?_eq_some_iff]
  constructor
  · rintro ⟨micro, ⟨nano, ending, same⟩, read⟩
    exact ⟨nano, ending, same ▸ read⟩
  · rintro ⟨nano, ending, read⟩
    exact ⟨_, ⟨nano, ending, rfl⟩, read⟩

end

/-- What is read are the times that stand. -/
theorem timestamp?_eq_some_iff {cs : List Char} {t : Instant} :
    timestamp? cs = some t ↔ ∃ u, Written cs u ∧ u.Stands ∧ t = u.instant := by
  rw [timestamp?]
  constructor
  · intro h
    obtain ⟨year, ys, _, years, rfl, ofYear⟩ := bind_number_eq_some_iff.mp h
    obtain ⟨_, rfl, toMonth⟩ := bind_mark_eq_some_iff.mp ofYear
    obtain ⟨month, ms, _, months, rfl, ofMonth⟩ := bind_number_eq_some_iff.mp toMonth
    obtain ⟨_, rfl, toDay⟩ := bind_mark_eq_some_iff.mp ofMonth
    obtain ⟨day, ds, _, days, rfl, ofDay⟩ := bind_number_eq_some_iff.mp toDay
    obtain ⟨_, rfl, toHour⟩ := bind_mark_eq_some_iff.mp ofDay
    obtain ⟨hour, hs, _, hours, rfl, ofHour⟩ := bind_number_eq_some_iff.mp toHour
    obtain ⟨_, rfl, toMinute⟩ := bind_mark_eq_some_iff.mp ofHour
    obtain ⟨minute, ns, _, minutes, rfl, ofMinute⟩ := bind_number_eq_some_iff.mp toMinute
    obtain ⟨_, rfl, toSecond⟩ := bind_mark_eq_some_iff.mp ofMinute
    obtain ⟨second, ss, es, seconds, rfl, ofSecond⟩ := bind_number_eq_some_iff.mp toSecond
    obtain ⟨nano, ending, toEnd⟩ := bind_ending_eq_some_iff.mp ofSecond
    obtain ⟨real, made⟩ := Option.ite_none_right_eq_some.mp toEnd
    have written : Written _ ⟨⟨year, month, day⟩, hour, minute, second, nano⟩ :=
      .intro years months days hours minutes seconds ending
    exact ⟨_, written, (UtcTime.stands_iff ending.le).mpr (Bool.and_eq_true_iff.mp real),
      (Option.some.inj made).symm⟩
  · rintro ⟨u, written, stands, same⟩
    have real := Bool.and_eq_true_iff.mpr ((UtcTime.stands_iff stands.nano).mp stands)
    cases written with
    | intro years months days hours minutes seconds ending =>
        refine bind_number_eq_some_iff.mpr ⟨_, _, _, years, rfl, ?_⟩
        refine bind_mark_eq_some_iff.mpr ⟨_, rfl, ?_⟩
        refine bind_number_eq_some_iff.mpr ⟨_, _, _, months, rfl, ?_⟩
        refine bind_mark_eq_some_iff.mpr ⟨_, rfl, ?_⟩
        refine bind_number_eq_some_iff.mpr ⟨_, _, _, days, rfl, ?_⟩
        refine bind_mark_eq_some_iff.mpr ⟨_, rfl, ?_⟩
        refine bind_number_eq_some_iff.mpr ⟨_, _, _, hours, rfl, ?_⟩
        refine bind_mark_eq_some_iff.mpr ⟨_, rfl, ?_⟩
        refine bind_number_eq_some_iff.mpr ⟨_, _, _, minutes, rfl, ?_⟩
        refine bind_mark_eq_some_iff.mpr ⟨_, rfl, ?_⟩
        refine bind_number_eq_some_iff.mpr ⟨_, _, _, seconds, rfl, ?_⟩
        refine bind_ending_eq_some_iff.mpr ⟨_, ending, ?_⟩
        exact Option.ite_none_right_eq_some.mpr ⟨real, congrArg some same.symm⟩

/-! ## Blanks -/

theorem Spelled.filled {count n : Nat} {ds : List Char} (h : Spelled (count + 1) n ds) :
    ∃ c rest, ds = c :: rest ∧ c.isDigit = true := by
  cases ds with
  | nil => cases h.length
  | cons c rest => exact ⟨c, rest, rfl, h.digits c List.mem_cons_self⟩

theorem Ending.getLast? {es : List Char} {nano : Nat} (h : Ending es nano) :
    es.getLast? = some 'Z' := by
  cases h with
  | whole => rfl
  | part _ _ _ => simp [List.getLast?_cons]

/-- A time in its written form has no blanks at its ends. -/
theorem Written.trim_eq {cs : List Char} {u : UtcTime} (h : Written cs u) : trim cs = cs := by
  cases h with
  | intro years _ _ _ _ _ ending =>
      obtain ⟨c, rest, rfl, digit⟩ := years.filled
      refine trimBy_of_ends List.head?_cons ?_ (not_isBlank_of_isDigit digit)
        (show isBlank 'Z' = false from rfl)
      simp [List.getLast?_append, List.getLast?_cons, ending.getLast?]

/-- The times of a text are read when the blanks around it are gone. -/
theorem timestamp?_trim_iff {cs : List Char} {t : Instant} :
    timestamp? (trim cs) = some t ↔ ∃ u, Tells cs u ∧ t = u.instant := by
  rw [timestamp?_eq_some_iff]
  constructor
  · rintro ⟨u, written, stands, same⟩
    obtain ⟨before, after, whole, blank, blank'⟩ := exists_around isBlank cs
    exact ⟨u, ⟨before, trim cs, after, whole, blank, blank', written, stands⟩, same⟩
  · rintro ⟨u, ⟨before, body, after, whole, blank, blank', written, stands⟩, same⟩
    rw [whole, trim_around body blank blank', written.trim_eq]
    exact ⟨u, written, stands, same⟩

end Time

/-! ## Bounds -/

namespace Query

open Text Time

/-- The text has no character but blanks. -/
def Blank (text : WireText) : Prop := ∃ s, text = .chars s ∧ ∀ c ∈ s.toList, isBlank c = true

theorem isBlankText_iff (given : Option WireText) :
    isBlankText given = true ↔ ∀ text, given = some text → Blank text := by
  cases given with
  | none => simp [isBlankText]
  | some text =>
      cases text with
      | chars s => simp [isBlankText, blank, Blank]
      | broken points => simp [isBlankText, Blank]

/-- The report about a bound that tells no time. -/
def noTime (text : WireText) : Report :=
  ⟨.validation, "timestamps must be RFC3339 UTC format ending with Z", "invalid_utc_time",
    [("value", .str text)]⟩

/-- What a bound comes to: nothing when it is blank, the time that it tells, cut to
microseconds, or a report. -/
inductive Bound (given : Option WireText) : Checked (Option Instant) → Prop
  | blank : (∀ text, given = some text → Blank text) → Bound given (.ok none)
  | time {s : String} {u : UtcTime} {t : Instant} : given = some (.chars s) → Tells s.toList u →
      t.micros = u.nanos / 1000 → Bound given (.ok (some t))
  | refused {text : WireText} : given = some text → ¬ Blank text →
      (∀ s u, text = .chars s → ¬ Tells s.toList u) → Bound given (.error (noTime text))

theorem bound_instant (given : Option WireText) : Bound given (instant given) := by
  unfold instant
  split
  · exact .blank nofun
  · next text =>
      split
      · next empty => exact .blank ((isBlankText_iff _).mp empty)
      · next filled =>
          have some : ¬ Blank text := fun blank =>
            filled ((isBlankText_iff _).mpr fun _ same => Option.some.inj same ▸ blank)
          split
          · next t found =>
              obtain ⟨name, trimmed, read⟩ := Option.bind_eq_some_iff.mp found
              cases text with
              | broken points => cases trimmed
              | chars s =>
                  cases trimmed
                  rw [toList_strip] at read
                  obtain ⟨u, tells, same⟩ := timestamp?_trim_iff.mp read
                  exact .time rfl tells ((UtcTime.eq_instant_iff tells.stands.date).mp same)
          · next unread =>
              refine .refused rfl some fun s u same tells => ?_
              have read := timestamp?_trim_iff.mpr ⟨u, tells, rfl⟩
              rw [← toList_strip] at read
              rw [same] at unread
              simp [trimmed?, WireText.chars?, read] at unread

/-- A time that is told is read. -/
theorem instant_of_tells {s : String} {u : UtcTime} (tells : Tells s.toList u) :
    instant (some (.chars s)) = .ok (some u.instant) :=
  instant_of_timestamp (timestamp?_trim_iff.mpr ⟨u, tells, rfl⟩)

theorem not_blank_of_tells {s : String} {u : UtcTime} (tells : Tells s.toList u) :
    ¬ Blank (.chars s) := by
  rintro ⟨s', same, blank⟩
  have read := timestamp?_trim_iff.mpr ⟨u, tells, rfl⟩
  rw [WireText.chars.inj same, trim_of_all_blank (List.all_eq_true.mpr blank)] at read
  cases read

/-- A text tells times of one instant only. -/
theorem micros_of_tells {cs : List Char} {u v : UtcTime} (tells : Tells cs u)
    (tells' : Tells cs v) : u.nanos / 1000 = v.nanos / 1000 := by
  have read := timestamp?_trim_iff.mpr ⟨u, tells, rfl⟩
  rw [timestamp?_trim_iff.mpr ⟨v, tells', rfl⟩] at read
  rw [← UtcTime.micros_instant tells.stands.date, ← UtcTime.micros_instant tells'.stands.date,
    Option.some.inj read]

/-- A bound comes to one thing only. -/
theorem Bound.unique {given : Option WireText} {o o' : Checked (Option Instant)}
    (bound : Bound given o) (bound' : Bound given o') : o = o' := by
  cases bound with
  | blank empty => cases bound' with
    | blank _ => rfl
    | time same tells _ => exact absurd (empty _ same) (not_blank_of_tells tells)
    | refused same filled _ => exact absurd (empty _ same) filled
  | time same tells micros => cases bound' with
    | blank empty => exact absurd (empty _ same) (not_blank_of_tells tells)
    | time same' tells' micros' =>
        cases Option.some.inj (same.symm.trans same')
        rw [← micros_of_tells tells tells', ← micros] at micros'
        exact congrArg (fun n => Except.ok (some (Instant.mk n))) micros'.symm
    | refused same' _ untold =>
        exact absurd tells (untold _ _ (Option.some.inj (same'.symm.trans same)))
  | refused same filled untold => cases bound' with
    | blank empty => exact absurd (empty _ same) filled
    | time same' tells _ =>
        exact absurd tells (untold _ _ (Option.some.inj (same.symm.trans same')))
    | refused same' _ _ => rw [Option.some.inj (same.symm.trans same')]

/-- A bound is read of a text if and only if the text tells a time, and what is read is the
time, cut to microseconds.  Instants are in the order of the parts of the times, year before
month and so on, as far as they are told apart by microseconds. -/
theorem instant_told :
    (∀ (given : Option WireText) (o : Checked (Option Instant)),
      instant given = o ↔ Bound given o) ∧
    ∀ (s s' : String) (u v : UtcTime), Tells s.toList u → Tells s'.toList v →
      ∃ t t', instant (some (.chars s)) = .ok (some t) ∧
        instant (some (.chars s')) = .ok (some t') ∧
        (t < t' ↔ u.toMicros.parts < v.toMicros.parts) ∧ (u.parts ≤ v.parts → t ≤ t') := by
  refine ⟨fun given o => ?_, fun s s' u v tells tells' => ?_⟩
  · exact ⟨fun same => same ▸ bound_instant given, fun bound => (bound_instant given).unique bound⟩
  · have first := UtcTime.micros_instant tells.stands.date
    have second := UtcTime.micros_instant tells'.stands.date
    refine ⟨_, _, instant_of_tells tells, instant_of_tells tells', ?_, fun upTo => ?_⟩
    · show u.instant.micros < v.instant.micros ↔ _
      rw [← UtcTime.nanos_lt_iff tells.stands.toMicros tells'.stands.toMicros,
        UtcTime.nanos_toMicros, UtcTime.nanos_toMicros]
      omega
    · show u.instant.micros ≤ v.instant.micros
      have order := mt (UtcTime.nanos_lt_iff tells'.stands tells.stands).mp (not_lt.mpr upTo)
      omega

/-- The last second of a leap day, with nine digits after the point and with six. -/
theorem instant_told_leapDay :
    ∃ t t' : Instant,
      instant (some (.chars " 2024-02-29T23:59:59.123456789Z")) = .ok (some t) ∧
        instant (some (.chars "2024-02-29T23:59:59.123457Z")) = .ok (some t') ∧ t < t' := by
  have date : (⟨2024, 2, 29⟩ : Date).Stands := (Date.isReal_iff _).mp (by decide)
  have spelled : ∀ ds : List Char, ds.all Char.isDigit = true →
      Spelled ds.length (Number.natOfDigits ds) ds :=
    fun ds digits => ⟨rfl, List.all_eq_true.mp digits, rfl⟩
  have written : ∀ {es : List Char} {nano : Nat}, Ending es nano →
      Written ("2024-02-29T23:59:59".toList ++ es) ⟨⟨2024, 2, 29⟩, 23, 59, 59, nano⟩ := by
    intro es nano ending
    have second := spelled "59".toList rfl
    exact @Written.intro ⟨⟨2024, 2, 29⟩, 23, 59, 59, nano⟩ _ _ _ _ _ _ _
      (spelled "2024".toList rfl) (spelled "02".toList rfl) (spelled "29".toList rfl)
      (spelled "23".toList rfl) second second ending
  have nine : Tells " 2024-02-29T23:59:59.123456789Z".toList
      ⟨⟨2024, 2, 29⟩, 23, 59, 59, 123456789⟩ :=
    ⟨[' '], _, [], rfl, List.all_eq_true.mp rfl, nofun,
      written (.part (by decide) (by decide) (spelled "123456789".toList rfl)), date,
      by decide, by decide, by decide, by decide⟩
  have six : Tells "2024-02-29T23:59:59.123457Z".toList
      ⟨⟨2024, 2, 29⟩, 23, 59, 59, 123457000⟩ :=
    ⟨[], _, [], rfl, nofun, nofun,
      written (.part (by decide) (by decide) (spelled "123457".toList rfl)), date,
      by decide, by decide, by decide, by decide⟩
  obtain ⟨t, t', read, read', order, _⟩ := instant_told.2 _ _ _ _ nine six
  exact ⟨t, t', read, read', order.mpr (by decide)⟩

end Query

end HostMonitor
