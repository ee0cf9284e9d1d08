import HostMonitor.Proofs.Seconds

/-!
# What a timestamp looks like

`DateTime` is the grammar of dates and times in documents: a real date, with four
digits for the year, a time of day and an offset.  A timestamp is written in it when
the year has four digits, which is from the year 1000 on.  An earlier year has fewer
digits, and then the text is no date.

The days of an instant are turned into a date that stands in the calendar, with the
month and the day it has room for.
-/

namespace HostMonitor.Time

open Number

/-! ## The calendar -/

/-- Days that lie within a list of months lie within one of the months. -/
theorem monthAndDay_within {lengths : List Nat} {month days : Nat} (h : days < lengths.sum) :
    ∃ k length, lengths[k]? = some length ∧ (monthAndDay month days lengths).1 = month + k ∧
      1 ≤ (monthAndDay month days lengths).2 ∧ (monthAndDay month days lengths).2 ≤ length := by
  induction lengths generalizing month days with
  | nil => simp at h
  | cons length more ih =>
      rw [monthAndDay]
      by_cases here : days < length
      · rw [if_pos here]
        exact ⟨0, length, rfl, rfl, by omega, by omega⟩
      · rw [if_neg here]
        have later : days - length < more.sum := by
          rw [List.sum_cons] at h
          omega
        obtain ⟨k, found, at_k, same, low, high⟩ := @ih (month + 1) (days - length) later
        exact ⟨k + 1, found, at_k, by omega, low, high⟩

/-- A count falls into periods of one length and a rest.  There are no more periods
than `most`, and when that leaves a whole one over, it is the rest. -/
theorem exists_periods {length most n : Nat} (pos : 0 < length) (h : n ≤ (most + 1) * length) :
    ∃ k r, min (n / length) most = k ∧ n - k * length = r ∧ n = k * length + r ∧ k ≤ most ∧
      (r < length ∨ r = length ∧ k = most) := by
  by_cases few : n / length ≤ most
  · have rest : n - n / length * length = n % length := by rw [Nat.mul_comm, Nat.mod_eq_sub]
    exact ⟨n / length, n % length, Nat.min_eq_left few, rest, (Nat.div_add_mod' ..).symm, few,
      .inl (Nat.mod_lt _ pos)⟩
  · have all : n = most * length + length := by
      rw [← Nat.add_one_mul]
      exact Nat.le_antisymm h ((Nat.le_div_iff_mul_le pos).mp (Nat.not_le.mp few))
    exact ⟨most, length, Nat.min_eq_right (Nat.le_of_not_le few), by omega, all, Nat.le_refl _,
      .inr ⟨rfl, rfl⟩⟩

/-- Days fall into periods of four centuries, centuries, periods of four years, and
years.  A year with one day more is the last of four, and if it is the last of a
century, the century is the last of four. -/
theorem exists_parts (days : Nat) :
    ∃ a b c d r, days = 146097 * a + 36524 * b + 1461 * c + 365 * d + r ∧ b ≤ 3 ∧ c ≤ 24 ∧ d ≤ 3 ∧
      (r < 365 ∨ r = 365 ∧ d = 3 ∧ (c = 24 → b = 3)) ∧
      400 * a + 100 * b + 4 * c + d + 1 = (dateOf days).year ∧
      monthAndDay 1 r (monthLengths (isLeap (dateOf days).year)) =
        ((dateOf days).month, (dateOf days).day) := by
  obtain ⟨b, r, hb, hr, split, few, rest⟩ :=
    @exists_periods 36524 3 (days % 146097) (by decide) (by omega)
  obtain ⟨d, s, hd, hs, split', few', rest'⟩ :=
    @exists_periods 365 3 (r % 1461) (by decide) (by omega)
  -- The date gets a name before it is unfolded, and so does its year: the quotients
  -- occur in it many times.
  generalize date : dateOf days = found
  rw [dateOf, hb, hr, hd, hs] at date
  generalize same : 400 * (days / 146097) + 100 * b + 4 * (r / 1461) + d + 1 = year at date
  cases monthly : monthAndDay 1 s (monthLengths (isLeap year)) with
  | mk month day =>
      rw [monthly] at date
      cases date
      exact ⟨_, b, r / 1461, d, s, by omega, few, by omega, few', by omega, same, monthly⟩

/-- Days are those before a year, and a rest that is less than the year. -/
theorem exists_dayOfYear (days : Nat) :
    ∃ r, days = daysBeforeYear (dateOf days).year + r ∧
      r < (monthLengths (isLeap (dateOf days).year)).sum ∧
      monthAndDay 1 r (monthLengths (isLeap (dateOf days).year)) =
        ((dateOf days).month, (dateOf days).day) := by
  obtain ⟨a, b, c, d, r, split, _, _, _, rest, year, monthly⟩ := exists_parts days
  refine ⟨r, ?_, ?_, monthly⟩
  · rw [← year, daysBeforeYear]
    omega
  · rw [← year, sum_monthLengths, isLeap]
    simp only [Bool.and_eq_true, beq_iff_eq, Bool.or_eq_true, bne_iff_ne, ne_eq]
    split
    · omega
    · omega

/-- The year has four digits from the first day of the year 1000 on. -/
theorem thousand_le_year_dateOf_iff (days : Nat) : 1000 ≤ (dateOf days).year ↔ 364877 ≤ days := by
  obtain ⟨a, b, c, d, r, _, _, _, _, rest, year, _⟩ := exists_parts days
  omega

/-- The year has at most four digits up to the last day of the year 9999. -/
theorem year_dateOf_le_iff (days : Nat) : (dateOf days).year ≤ 9999 ↔ days < 3652059 := by
  obtain ⟨a, b, c, d, r, _, _, _, _, rest, year, _⟩ := exists_parts days
  omega

/-- The month and the day of a day of the year. -/
theorem monthAndDay_real {year month day r : Nat} (inside : r < (monthLengths (isLeap year)).sum)
    (monthly : monthAndDay 1 r (monthLengths (isLeap year)) = (month, day)) :
    1 ≤ month ∧ month ≤ 12 ∧ 1 ≤ day ∧ day ≤ daysInMonth year month := by
  obtain ⟨k, length, found, same, low, high⟩ := @monthAndDay_within _ 1 r inside
  have twelve : k < 12 := by
    have bound := (List.getElem?_eq_some_iff.mp found).1
    rwa [monthLengths, List.length_cons] at bound
  rw [monthly] at same low high
  dsimp only at same low high
  refine ⟨by omega, by omega, low, ?_⟩
  rw [daysInMonth, if_neg (by omega), same, Nat.add_sub_cancel_left, found]
  exact high

/-- The month and the day of a date are those of a year. -/
theorem day_dateOf (days : Nat) :
    1 ≤ (dateOf days).month ∧ (dateOf days).month ≤ 12 ∧ 1 ≤ (dateOf days).day ∧
      (dateOf days).day ≤ daysInMonth (dateOf days).year (dateOf days).month := by
  obtain ⟨r, _, inside, monthly⟩ := exists_dayOfYear days
  exact monthAndDay_real inside monthly

/-! ## Digits -/

/-- The text is the number in so many digits. -/
structure Spelled (count n : Nat) (cs : List Char) : Prop where
  length : cs.length = count
  digits : ∀ c ∈ cs, c.isDigit = true
  value : natOfDigits cs = n

theorem natOfDigits_eq (cs : List Char) : natOfDigits cs = Nat.ofDigitChars 10 cs 0 := by
  simp only [natOfDigits, Nat.ofDigitChars, Nat.mul_comm]
  rfl

theorem natOfDigits_toDigits (n : Nat) : natOfDigits (Nat.toDigits 10 n) = n := by
  rw [natOfDigits_eq, Nat.ofDigitChars_toDigits (by decide) (by decide)]

/-- Zeros in front do not count. -/
theorem natOfDigits_zeros (k : Nat) (cs : List Char) :
    natOfDigits (List.replicate k '0' ++ cs) = natOfDigits cs := by
  induction k with
  | zero => rfl
  | succ k ih =>
      rw [List.replicate_succ, List.cons_append, ← ih]
      rfl

theorem isDigit_toDigits {n : Nat} {c : Char} (h : c ∈ Nat.toDigits 10 n) : c.isDigit = true :=
  Nat.isDigit_of_mem_toDigits (by decide) (by decide) h

/-- A number that has room is spelled in the given width. -/
theorem spelled_padded {width n : Nat} (wide : 0 < width) (room : n < 10 ^ width) :
    Spelled width n (padded width n) where
  length := by
    have short := (Nat.length_toDigits_le_iff (by decide : 1 < 10) wide).mpr room
    rw [padded, List.length_append, List.length_replicate]
    omega
  digits := by
    intro c mem
    rcases List.mem_append.mp mem with zero | digit
    · rw [List.eq_of_mem_replicate zero]
      rfl
    · exact isDigit_toDigits digit
  value := by rw [padded, natOfDigits_zeros, natOfDigits_toDigits]

/-- A number has four digits without zeros in front from a thousand on. -/
theorem spelled_toDigits_iff {n : Nat} :
    Spelled 4 n (Nat.toDigits 10 n) ↔ 1000 ≤ n ∧ n ≤ 9999 := by
  have four : (Nat.toDigits 10 n).length ≤ 4 ↔ n < 10 ^ 4 :=
    Nat.length_toDigits_le_iff (by decide) (by decide)
  have three : (Nat.toDigits 10 n).length ≤ 3 ↔ n < 10 ^ 3 :=
    Nat.length_toDigits_le_iff (by decide) (by decide)
  constructor
  · intro h
    have length := h.length
    omega
  · intro bounds
    exact ⟨by omega, fun c => isDigit_toDigits, natOfDigits_toDigits n⟩

/-! ## The grammar of dates and times -/

/-- The part of a second. -/
inductive Fraction : List Char → Prop where
  | none : Fraction []
  | some {ds : List Char} : ds ≠ [] → (∀ c ∈ ds, c.isDigit = true) → Fraction ('.' :: ds)

/-- The distance from universal time. -/
inductive Offset : List Char → Prop where
  | zulu {z : Char} : z = 'Z' ∨ z = 'z' → Offset [z]
  | shift {sign : Char} {hour minute : Nat} {hs ms : List Char} :
      sign = '+' ∨ sign = '-' → Spelled 2 hour hs → hour < 24 → Spelled 2 minute ms →
      minute < 60 → Offset (sign :: (hs ++ ':' :: ms))

/-- The text is a date and a time. -/
inductive DateTime : List Char → Prop where
  | intro {d : Date} {hour minute second : Nat} {ys ms ds hs ns ss fs os : List Char} {t : Char} :
      Spelled 4 d.year ys → Spelled 2 d.month ms → Spelled 2 d.day ds →
      1 ≤ d.month → d.month ≤ 12 → 1 ≤ d.day → d.day ≤ daysInMonth d.year d.month →
      t = 'T' ∨ t = 't' →
      Spelled 2 hour hs → hour < 24 → Spelled 2 minute ns → minute < 60 →
      -- A leap second has the number sixty.
      Spelled 2 second ss → second ≤ 60 → Fraction fs → Offset os →
      DateTime (ys ++ '-' :: (ms ++ '-' :: (ds ++ t :: (hs ++ ':' :: (ns ++ ':' ::
        (ss ++ (fs ++ os)))))))

/-! ## Timestamps of instants -/

/-- The first instant of the year 1000. -/
def fourDigits : Instant := ⟨-30610224000000000⟩

theorem year_dateAndClock_iff (t : Instant) :
    1000 ≤ t.dateAndClock.1.year ∧ t.dateAndClock.1.year ≤ 9999 ↔
      fourDigits ≤ t ∧ t ≤ Instant.last := by
  rw [Instant.dateAndClock, thousand_le_year_dateOf_iff, year_dateOf_le_iff]
  show _ ↔ (-30610224000000000 : Int) ≤ t.micros ∧ t.micros ≤ 253402300799999999
  simp only [Instant.first]
  omega

/-- What stands before the first hyphen is the number in front. -/
theorem append_hyphen_inj {ds ds' rest rest' : List Char} (digits : ∀ c ∈ ds, c.isDigit = true)
    (digits' : ∀ c ∈ ds', c.isDigit = true) (h : ds ++ '-' :: rest = ds' ++ '-' :: rest') :
    ds = ds' := by
  have front : ∀ {ds rest : List Char}, (∀ c ∈ ds, c.isDigit = true) →
      (ds ++ '-' :: rest).takeWhile Char.isDigit = ds := by
    intro ds rest digits
    rw [List.takeWhile_append_of_pos digits, List.takeWhile_cons_of_neg (by decide),
      List.append_nil]
  rw [← front digits, h, front digits']

/-- The characters of a timestamp. -/
theorem toList_timestamp (t : Instant) :
    t.timestamp.toList = Nat.toDigits 10 t.dateAndClock.1.year ++ '-' ::
      (padded 2 t.dateAndClock.1.month ++ '-' :: (padded 2 t.dateAndClock.1.day ++ 'T' ::
        (padded 2 t.dateAndClock.2.hour ++ ':' :: (padded 2 t.dateAndClock.2.minute ++ ':' ::
          (padded 2 t.dateAndClock.2.second ++
            ('.' :: padded 3 (t.dateAndClock.2.micro / 1000) ++ ['Z'])))))) := by
  rw [Instant.timestamp]
  generalize t.dateAndClock = parts
  obtain ⟨d, c⟩ := parts
  simp

/-- The time of day of an instant is one of a day. -/
theorem clock_dateAndClock (t : Instant) :
    t.dateAndClock.2.hour < 24 ∧ t.dateAndClock.2.minute < 60 ∧ t.dateAndClock.2.second < 60 ∧
      t.dateAndClock.2.micro < 1000000 := by
  rw [Instant.dateAndClock]
  dsimp only
  omega

/-- The timestamp of an instant is a date and a time when the year has four digits. -/
theorem dateTime_timestamp_iff (t : Instant) :
    DateTime t.timestamp.toList ↔ fourDigits ≤ t ∧ t ≤ Instant.last := by
  rw [← year_dateAndClock_iff, ← spelled_toDigits_iff, toList_timestamp]
  constructor
  · intro h
    generalize e : Nat.toDigits 10 t.dateAndClock.1.year ++ '-' :: _ = cs at h
    cases h with
    | intro year _ _ _ _ _ _ _ _ _ _ _ _ _ _ _ =>
        have same := append_hyphen_inj (fun c => isDigit_toDigits) year.digits e
        rw [← same] at year
        exact ⟨year.length, year.digits, natOfDigits_toDigits _⟩
  · intro year
    obtain ⟨hour, minute, second, micro⟩ := clock_dateAndClock t
    have day : 1 ≤ t.dateAndClock.1.month ∧ t.dateAndClock.1.month ≤ 12 ∧
        1 ≤ t.dateAndClock.1.day ∧
        t.dateAndClock.1.day ≤ daysInMonth t.dateAndClock.1.year t.dateAndClock.1.month := by
      rw [Instant.dateAndClock]
      exact day_dateOf _
    obtain ⟨january, december, first, last⟩ := day
    have short := daysInMonth_le t.dateAndClock.1.year t.dateAndClock.1.month
    have millis : Spelled 3 (t.dateAndClock.2.micro / 1000) _ :=
      spelled_padded (by decide) (by omega)
    have part : Fraction ('.' :: padded 3 (t.dateAndClock.2.micro / 1000)) := by
      refine .some (fun none => ?_) millis.digits
      have length := millis.length
      rw [none] at length
      cases length
    exact .intro year (spelled_padded (by decide) (by omega)) (spelled_padded (by decide) (by omega))
      january december first last (.inl rfl) (spelled_padded (by decide) (by omega)) hour
      (spelled_padded (by decide) (by omega)) minute (spelled_padded (by decide) (by omega))
      (Nat.le_of_lt second) part (.zulu (.inl rfl))

/-- What is read from a timestamp lies in the calendar. -/
theorem le_last_of_timestamp {cs : List Char} {t : Instant} (h : timestamp? cs = some t) :
    t ≤ Instant.last := by
  obtain ⟨d, c, date, clock, rfl⟩ := exists_of_timestamp h
  have days := dayNumber_lt date
  simp only [Instant.Clock.isReal, Bool.and_eq_true, decide_eq_true_eq] at clock
  show (Instant.of d c).micros ≤ 253402300799999999
  simp only [Instant.of, Instant.Clock.micros, Instant.epochDays, Instant.dayMicros]
  omega

end HostMonitor.Time
