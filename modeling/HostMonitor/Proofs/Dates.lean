import HostMonitor.Proofs.Cutting
import HostMonitor.Proofs.Timestamps
import HostMonitor.Query.Arguments

/-!
# Timestamps read back

A count of days is turned into a date and the date into the same count, so an
instant of the calendar is the one of its date and its time of day.  A timestamp
keeps the milliseconds of an instant.  When the year has four digits it is read, and
what is read is the instant cut to milliseconds.
-/

namespace HostMonitor.Time

open Number Text

/-! ## Days -/

/-- The month and the day of a count come after as many days. -/
theorem sum_take_monthAndDay {lengths : List Nat} {month days : Nat} (h : days < lengths.sum) :
    (lengths.take ((monthAndDay month days lengths).1 - month)).sum +
      ((monthAndDay month days lengths).2 - 1) = days := by
  induction lengths generalizing month days with
  | nil => simp at h
  | cons length more ih =>
      rw [monthAndDay]
      by_cases here : days < length
      · simp [here]
      · rw [List.sum_cons] at h
        have later := @ih (month + 1) (days - length) (by omega)
        obtain ⟨k, _, _, at_k, _, _⟩ :=
          @monthAndDay_within more (month + 1) (days - length) (by omega)
        rw [if_neg here, show (monthAndDay (month + 1) (days - length) more).1 - month =
          (monthAndDay (month + 1) (days - length) more).1 - (month + 1) + 1 by omega,
          List.take_succ_cons, List.sum_cons]
        omega

/-- The date of a count of days has so many days before it. -/
theorem dayNumber_dateOf (days : Nat) : dayNumber (dateOf days) = days := by
  obtain ⟨r, before, inside, monthly⟩ := exists_dayOfYear days
  have counted := @sum_take_monthAndDay _ 1 r inside
  rw [monthly] at counted
  dsimp only at counted
  rw [dayNumber, ← List.sum_eq_foldl]
  omega

theorem one_le_year_dateOf (days : Nat) : 1 ≤ (dateOf days).year := by
  obtain ⟨a, b, c, d, r, _, _, _, _, _, year, _⟩ := exists_parts days
  omega

/-- An instant of the calendar has a date of the calendar. -/
theorem isReal_dateAndClock {t : Instant} (last : t ≤ Instant.last) :
    t.dateAndClock.1.isReal = true := by
  have days : (t.micros - Instant.first.micros).toNat / 86400000000 < 3652059 := by
    have last' : t.micros ≤ 253402300799999999 := last
    simp only [Instant.first]
    omega
  have day := day_dateOf ((t.micros - Instant.first.micros).toNat / 86400000000)
  rw [Instant.dateAndClock]
  simp only [Date.isReal, Bool.and_eq_true, decide_eq_true_eq]
  exact ⟨⟨⟨one_le_year_dateOf _, (year_dateOf_le_iff _).mpr days⟩, day.2.2.1⟩, day.2.2.2⟩

/-! ## Milliseconds -/

/-- The instant cut to milliseconds. -/
def Instant.toMillis (t : Instant) : Instant := ⟨t.micros - t.micros % 1000⟩

/-- The clock without what is finer than milliseconds. -/
def Instant.Clock.toMillis (c : Clock) : Clock := { c with micro := c.micro / 1000 * 1000 }

/-- The date and the time of an instant are those of the instant. -/
theorem of_dateAndClock {t : Instant} (h : Instant.first ≤ t) :
    Instant.of t.dateAndClock.1 t.dateAndClock.2.toMillis = t.toMillis := by
  have start : (-62135596800000000 : Int) ≤ t.micros := h
  rw [Instant.dateAndClock]
  simp only [Instant.of, dayNumber_dateOf, Instant.Clock.toMillis, Instant.Clock.micros,
    Instant.toMillis, Instant.epochDays, Instant.dayMicros, Instant.first, Instant.mk.injEq]
  omega

/-! ## Reading -/

/-- A number in so many digits is read. -/
theorem fixedNumber?_append {count n : Nat} {ds : List Char} (h : Spelled count n ds)
    (rest : List Char) : fixedNumber? count (ds ++ rest) = some (n, rest) := by
  have digits : ds.all Char.isDigit = true := List.all_eq_true.mpr h.digits
  rw [fixedNumber?, ← h.length, List.take_left, List.drop_left, h.value]
  simp [digits]

theorem after?_cons (c : Char) (rest : List Char) : after? c (c :: rest) = some rest := if_pos rfl

theorem natOfDigits_concat (ds : List Char) (d : Char) :
    natOfDigits (ds ++ [d]) = natOfDigits ds * 10 + (d.toNat - 0x30) := by
  simp [natOfDigits]

theorem digit_le {c : Char} (digit : c.isDigit = true) : c.toNat - 0x30 ≤ 9 := by
  rw [Char.isDigit, Bool.and_eq_true, decide_eq_true_eq, decide_eq_true_eq] at digit
  have bound : c.toNat ≤ 57 := digit.2
  omega

/-- Digits spell less than the power of ten with as many zeros. -/
theorem natOfDigits_lt {ds : List Char} (digits : ∀ c ∈ ds, c.isDigit = true) :
    natOfDigits ds < 10 ^ ds.length := by
  induction ds using List.reverseRecOn with
  | nil => simp [natOfDigits]
  | append_singleton ds d ih =>
      have rest := ih fun c mem => digits c (List.mem_append_left _ mem)
      have last := digit_le (digits d (List.mem_append_right _ List.mem_cons_self))
      rw [natOfDigits_concat, List.length_append, List.length_singleton, Nat.pow_succ]
      omega

/-- Digits at the end make those in front count for more. -/
theorem natOfDigits_append (ds es : List Char) :
    natOfDigits (ds ++ es) = natOfDigits ds * 10 ^ es.length + natOfDigits es := by
  induction es using List.reverseRecOn with
  | nil => simp [natOfDigits]
  | append_singleton es e ih =>
      rw [← List.append_assoc, natOfDigits_concat, ih, natOfDigits_concat, List.length_append,
        List.length_singleton]
      ring

/-- Zeros at the end are factors of ten. -/
theorem natOfDigits_append_zeros (ds : List Char) (k : Nat) :
    natOfDigits (ds ++ List.replicate k '0') = natOfDigits ds * 10 ^ k := by
  have none : natOfDigits (List.replicate k '0') = 0 := by
    simpa [natOfDigits] using natOfDigits_zeros k []
  rw [natOfDigits_append, List.length_replicate, none, Nat.add_zero]

/-- Three digits after the point are milliseconds. -/
theorem fraction?_millis {n : Nat} {ds : List Char} (h : Spelled 3 n ds) :
    fraction? ('.' :: ds ++ ['Z']) = some (n * 1000) := by
  have run : (ds ++ ['Z']).takeWhile Char.isDigit = ds := by
    rw [List.takeWhile_append_of_pos h.digits, List.takeWhile_cons_of_neg (by decide),
      List.append_nil]
  have rest : (ds ++ ['Z']).dropWhile Char.isDigit = ['Z'] := by
    rw [List.dropWhile_append_of_pos h.digits, List.dropWhile_cons_of_neg (by decide)]
  have filled : ds.isEmpty = false := by
    cases ds with
    | nil => cases h.length
    | cons _ _ => rfl
  have six : (ds ++ List.replicate 6 '0').take 6 = ds ++ List.replicate 3 '0' := by
    rw [List.take_append, List.take_of_length_le (by rw [h.length]; decide), h.length]
    rfl
  rw [List.cons_append, fraction?, run, rest, six, natOfDigits_append_zeros, h.value, filled,
    h.length]
  rfl

/-- The timestamp of an instant is read as the instant cut to milliseconds. -/
theorem timestamp?_timestamp {t : Instant} (year : fourDigits ≤ t) (last : t ≤ Instant.last) :
    timestamp? t.timestamp.toList = some t.toMillis := by
  obtain ⟨hour, minute, second, micro⟩ := clock_dateAndClock t
  have years := spelled_toDigits_iff.mpr ((year_dateAndClock_iff t).mpr ⟨year, last⟩)
  have real := isReal_dateAndClock last
  have start : Instant.first ≤ t := by
    have below : (-30610224000000000 : Int) ≤ t.micros := year
    show (-62135596800000000 : Int) ≤ t.micros
    omega
  have same := of_dateAndClock start
  have day : t.dateAndClock.1.month ≤ 12 ∧ t.dateAndClock.1.day ≤ 31 := by
    have inside := day_dateOf ((t.micros - Instant.first.micros).toNat / 86400000000)
    have short := daysInMonth_le t.dateAndClock.1.year t.dateAndClock.1.month
    rw [Instant.dateAndClock] at short ⊢
    exact ⟨inside.2.1, Nat.le_trans inside.2.2.2 short⟩
  have two : ∀ {n : Nat}, n < 100 → Spelled 2 n (padded 2 n) :=
    fun room => spelled_padded Nat.two_pos room
  have millis : Spelled 3 (t.dateAndClock.2.micro / 1000) (padded 3 _) :=
    spelled_padded (Nat.succ_pos 2) (by omega)
  rw [toList_timestamp]
  generalize t.dateAndClock = parts at *
  obtain ⟨⟨y, m, d⟩, ⟨h, n, s, u⟩⟩ := parts
  dsimp only at *
  have clock : Instant.Clock.isReal ⟨h, n, s, u / 1000 * 1000⟩ = true := by
    simp only [Instant.Clock.isReal, Bool.and_eq_true, decide_eq_true_eq]
    omega
  simp only [timestamp?, Option.bind_eq_bind, fixedNumber?_append years, after?_cons,
    fixedNumber?_append (two (n := m) (by omega)), fixedNumber?_append (two (n := d) (by omega)),
    fixedNumber?_append (two (n := h) (by omega)), fixedNumber?_append (two (n := n) (by omega)),
    fixedNumber?_append (two (n := s) (by omega)), fraction?_millis millis, Option.bind_some,
    real, clock, Bool.and_self, if_true]
  exact congrArg some same

/-! ## Arguments -/

theorem trim_timestamp (t : Instant) : trim t.timestamp.toList = t.timestamp.toList := by
  obtain ⟨d, ds, e⟩ := List.exists_cons_of_ne_nil (Nat.toDigits_ne_nil (b := 10)
    (n := t.dateAndClock.1.year))
  have digit : d.isDigit = true := isDigit_toDigits (e ▸ List.mem_cons_self)
  rw [toList_timestamp, e]
  exact trimBy_of_ends (List.head?_cons ..) (by simp [List.getLast?_cons, List.getLast?_append])
    (not_isBlank_of_isDigit digit) (show isBlank 'Z' = false from rfl)

/-- As an argument the timestamp of an instant is the instant cut to milliseconds. -/
theorem instant_timestamp {t : Instant} (year : fourDigits ≤ t) (last : t ≤ Instant.last) :
    Query.instant (some (.chars t.timestamp)) = .ok (some t.toMillis) :=
  Query.instant_of_timestamp (by rw [trim_timestamp, timestamp?_timestamp year last])

end HostMonitor.Time
