import HostMonitor.Proofs.Seconds
import Mathlib.Algebra.BigOperators.Intervals
import Mathlib.Algebra.Order.BigOperators.Group.Finset
import Mathlib.Tactic.IntervalCases

/-!
# Counting days

The lengths of months are those of the Gregorian calendar.  The days before a date are
the days of the months of all earlier years, of the earlier months of its year, and the
earlier days of its month.  `dayNumber` is found without adding them up, and
`dayNumber_eq` says that it is this count.

Later dates have more days before them, so a date is known by its count.
-/

namespace HostMonitor.Time

/-! ## The lengths of months -/

/-- One year in four, but of the full centuries only one in four. -/
def LeapYear (year : Nat) : Prop := 4 ∣ year ∧ (100 ∣ year → 400 ∣ year)

instance (year : Nat) : Decidable (LeapYear year) := inferInstanceAs (Decidable (_ ∧ _))

theorem isLeap_iff (year : Nat) : isLeap year = true ↔ LeapYear year := by
  simp only [isLeap, LeapYear, Bool.and_eq_true, beq_iff_eq, Bool.or_eq_true, bne_iff_ne, ne_eq]
  omega

/-- The days of a month. -/
def monthDays (year : Nat) : (month : Nat) → Nat
  | 2 => if LeapYear year then 29 else 28
  | 4 | 6 | 9 | 11 => 30
  | _ => 31

/-- The days of a year, month by month. -/
def yearDays (year : Nat) : Nat := ∑ month ∈ Finset.Ico 1 13, monthDays year month

theorem yearDays_eq (year : Nat) : yearDays year = if LeapYear year then 366 else 365 := by
  have months : Finset.Ico 1 13 = {1, 2, 3, 4, 5, 6, 7, 8, 9, 10, 11, 12} := by decide
  by_cases leap : LeapYear year
  · simp [yearDays, months, monthDays, leap]
  · simp [yearDays, months, monthDays, leap]

theorem daysInMonth_eq (year : Nat) {month : Nat} (first : 1 ≤ month) (last : month ≤ 12) :
    daysInMonth year month = monthDays year month := by
  have leap := isLeap_iff year
  interval_cases month <;> simp [daysInMonth, monthLengths, monthDays, leap]

/-! ## Dates of the calendar -/

/-- The date stands in the calendar. -/
structure Date.Stands (d : Date) : Prop where
  year : 1 ≤ d.year ∧ d.year ≤ 9999
  month : 1 ≤ d.month ∧ d.month ≤ 12
  day : 1 ≤ d.day ∧ d.day ≤ monthDays d.year d.month

theorem month_le_of_daysInMonth {year month : Nat} (filled : 1 ≤ daysInMonth year month) :
    1 ≤ month ∧ month ≤ 12 := by
  rw [daysInMonth] at filled
  split at filled
  · contradiction
  · refine ⟨by omega, ?_⟩
    by_contra beyond
    have none : (monthLengths (isLeap year))[month - 1]? = none :=
      List.getElem?_eq_none (by simp [monthLengths]; omega)
    simp [none] at filled

theorem Date.isReal_iff (d : Date) : d.isReal = true ↔ d.Stands := by
  simp only [isReal, Bool.and_eq_true, decide_eq_true_eq]
  constructor
  · rintro ⟨⟨⟨first, last⟩, low⟩, high⟩
    have month := month_le_of_daysInMonth (Nat.le_trans low high)
    rw [daysInMonth_eq d.year month.1 month.2] at high
    exact ⟨⟨first, last⟩, month, ⟨low, high⟩⟩
  · intro stands
    rw [daysInMonth_eq d.year stands.month.1 stands.month.2]
    exact ⟨⟨stands.year, stands.day.1⟩, stands.day.2⟩

/-! ## Days before a date -/

/-- The days from the first day of the year one up to the date. -/
def Date.daysBefore (d : Date) : Nat :=
  ∑ year ∈ Finset.Ico 1 d.year, yearDays year +
    ∑ month ∈ Finset.Ico 1 d.month, monthDays d.year month + (d.day - 1)

/-- A leap year puts a day more before the years after it. -/
theorem daysBeforeYear_succ (year : Nat) :
    daysBeforeYear (year + 2) = daysBeforeYear (year + 1) + yearDays (year + 1) := by
  have fewer : year / 100 ≤ year / 4 := Nat.div_le_div_left (by decide) (by decide)
  have centuries : 400 ∣ year + 1 → 100 ∣ year + 1 := Nat.dvd_trans (by decide)
  have fours : 100 ∣ year + 1 → 4 ∣ year + 1 := Nat.dvd_trans (by decide)
  rw [yearDays_eq]
  simp only [daysBeforeYear, Nat.add_sub_cancel, Nat.succ_div, LeapYear,
    show year + 2 - 1 = year + 1 from rfl]
  by_cases four : 4 ∣ year + 1
  · by_cases hundred : 100 ∣ year + 1
    · by_cases whole : 400 ∣ year + 1
      · simp [four, hundred, whole]
        omega
      · simp [four, hundred, whole]
        omega
    · simp [four, hundred, mt centuries hundred]
      omega
  · simp [four, mt fours four, mt centuries (mt fours four)]
    omega

theorem daysBeforeYear_eq (year : Nat) :
    daysBeforeYear (year + 1) = ∑ y ∈ Finset.Ico 1 (year + 1), yearDays y := by
  induction year with
  | zero => rfl
  | succ year ih =>
      rw [Finset.sum_Ico_succ_top (Nat.le_add_left 1 year), ← ih, daysBeforeYear_succ]

theorem sum_take_monthLengths (year : Nat) {months : Nat} (few : months ≤ 12) :
    ((monthLengths (isLeap year)).take months).sum =
      ∑ month ∈ Finset.Ico 1 (months + 1), monthDays year month := by
  induction months with
  | zero => rfl
  | succ months ih =>
      have next : (monthLengths (isLeap year))[months]?.toList.sum =
          monthDays year (months + 1) := by
        have inside : months < (monthLengths (isLeap year)).length := few
        rw [← daysInMonth_eq year (Nat.le_add_left 1 months) few, daysInMonth,
          if_neg (Nat.succ_ne_zero months), Nat.add_sub_cancel, List.getElem?_eq_getElem inside]
        simp
      rw [Finset.sum_Ico_succ_top (Nat.le_add_left 1 months), ← ih (by omega), List.take_add_one,
        List.sum_append, next]

/-- The count of a date is the number of days before it. -/
theorem dayNumber_eq {d : Date} (stands : d.Stands) : dayNumber d = d.daysBefore := by
  have years := daysBeforeYear_eq (d.year - 1)
  have few : d.month - 1 ≤ 12 := (Nat.sub_le _ _).trans stands.month.2
  have months := sum_take_monthLengths d.year few
  rw [Nat.sub_add_cancel stands.year.1] at years
  rw [Nat.sub_add_cancel stands.month.1] at months
  rw [dayNumber, ← List.sum_eq_foldl, years, months, Date.daysBefore]

/-! ## The order of dates -/

/-- The days before a date in its month are fewer than the month has. -/
theorem Date.Stands.months_lt {d : Date} (stands : d.Stands) {most : Nat} (later : d.month < most) :
    ∑ month ∈ Finset.Ico 1 d.month, monthDays d.year month + (d.day - 1) <
      ∑ month ∈ Finset.Ico 1 most, monthDays d.year month := by
  have inside : Finset.Ico 1 (d.month + 1) ⊆ Finset.Ico 1 most := Finset.Ico_subset_Ico_right later
  calc ∑ month ∈ Finset.Ico 1 d.month, monthDays d.year month + (d.day - 1)
      < ∑ month ∈ Finset.Ico 1 d.month, monthDays d.year month + monthDays d.year d.month := by
        have day := stands.day
        omega
    _ = ∑ month ∈ Finset.Ico 1 (d.month + 1), monthDays d.year month :=
        (Finset.sum_Ico_succ_top stands.month.1 _).symm
    _ ≤ ∑ month ∈ Finset.Ico 1 most, monthDays d.year month := Finset.sum_le_sum_of_subset inside

/-- The days before a date in its year are fewer than the year has. -/
theorem Date.Stands.years_lt {d : Date} (stands : d.Stands) {most : Nat} (later : d.year < most) :
    d.daysBefore < ∑ year ∈ Finset.Ico 1 most, yearDays year := by
  have inside : Finset.Ico 1 (d.year + 1) ⊆ Finset.Ico 1 most := Finset.Ico_subset_Ico_right later
  calc d.daysBefore
      < ∑ year ∈ Finset.Ico 1 d.year, yearDays year + yearDays d.year := by
        rw [daysBefore, Nat.add_assoc]
        exact Nat.add_lt_add_left (stands.months_lt (Nat.lt_succ_of_le stands.month.2)) _
    _ = ∑ year ∈ Finset.Ico 1 (d.year + 1), yearDays year :=
        (Finset.sum_Ico_succ_top stands.year.1 _).symm
    _ ≤ ∑ year ∈ Finset.Ico 1 most, yearDays year := Finset.sum_le_sum_of_subset inside

/-- A date has fewer days before it than a later one. -/
theorem Date.Stands.daysBefore_lt {d d' : Date} (stands : d.Stands)
    (later : d.year < d'.year ∨ d.year = d'.year ∧
      (d.month < d'.month ∨ d.month = d'.month ∧ d.day < d'.day)) :
    d.daysBefore < d'.daysBefore := by
  rcases later with year | ⟨year, month | ⟨month, day⟩⟩
  · have within : ∑ year ∈ Finset.Ico 1 d'.year, yearDays year ≤ d'.daysBefore := by
      rw [daysBefore, Nat.add_assoc]
      exact Nat.le_add_right _ _
    exact Nat.lt_of_lt_of_le (stands.years_lt year) within
  · have earlier := stands.months_lt month
    rw [daysBefore, daysBefore, ← year]
    omega
  · have first := stands.day.1
    rw [daysBefore, daysBefore, ← year, ← month]
    omega

end HostMonitor.Time
