import HostMonitor.Proofs.Rounding
import HostMonitor.Time.Rfc3339

/-!
# Seconds of instants

The seconds of an instant are rounded, so they may be a little before it or after
it.  `slack` is how far that can be, in whole microseconds: none until `2 ^ 34` seconds
from the start of 1970, and 15 at the ends of the calendar.  The floor of the seconds is
that of an instant as much later, and the ceiling that of one as much earlier.  So the
whole seconds below one instant are never above those over a later one.
-/

namespace HostMonitor.Time

open Number

/-! ## Timestamps -/

theorem daysInMonth_le (year month : Nat) : daysInMonth year month ≤ 31 := by
  have each : ∀ leap, ∀ n ∈ monthLengths leap, n ≤ 31 := by decide
  rw [daysInMonth]
  split
  · exact Nat.zero_le _
  · cases found : (monthLengths (isLeap year))[month - 1]? with
    | none => exact Nat.zero_le _
    | some n => exact each _ n (List.mem_of_getElem? found)

theorem sum_monthLengths (leap : Bool) : (monthLengths leap).sum = if leap then 366 else 365 := by
  cases leap <;> rfl

/-- The days of a month come after those of the months before it. -/
theorem sum_take_add_le (lengths : List Nat) (k : Nat) :
    (lengths.take k).sum + lengths[k]?.getD 0 ≤ lengths.sum := by
  induction lengths generalizing k with
  | nil => simp
  | cons length more ih =>
      cases k with
      | zero => simp
      | succ k =>
          have rest := ih k
          simp only [List.take_succ_cons, List.sum_cons, List.getElem?_cons_succ]
          omega

/-- The days before a date are fewer than the calendar has. -/
theorem dayNumber_lt {d : Date} (real : d.isReal = true) : dayNumber d < 3652059 := by
  simp only [Date.isReal, Bool.and_eq_true, decide_eq_true_eq] at real
  obtain ⟨⟨⟨first, last⟩, low⟩, high⟩ := real
  have within := sum_take_add_le (monthLengths (isLeap d.year)) (d.month - 1)
  rw [sum_monthLengths] at within
  rw [daysInMonth] at high
  rw [dayNumber, daysBeforeYear, ← List.sum_eq_foldl]
  split at high
  · omega
  · split at within
    · next leap =>
        simp only [isLeap, Bool.and_eq_true, beq_iff_eq] at leap
        omega
    · omega

/-- A timestamp stands for the instant of a real date and time. -/
theorem exists_of_timestamp {cs : List Char} {t : Instant} (h : timestamp? cs = some t) :
    ∃ d c, d.isReal = true ∧ c.isReal = true ∧ t = Instant.of d c := by
  rw [timestamp?] at h
  obtain ⟨⟨year, _⟩, _, h⟩ := Option.bind_eq_some_iff.mp h
  obtain ⟨_, _, h⟩ := Option.bind_eq_some_iff.mp h
  obtain ⟨⟨month, _⟩, _, h⟩ := Option.bind_eq_some_iff.mp h
  obtain ⟨_, _, h⟩ := Option.bind_eq_some_iff.mp h
  obtain ⟨⟨day, _⟩, _, h⟩ := Option.bind_eq_some_iff.mp h
  obtain ⟨_, _, h⟩ := Option.bind_eq_some_iff.mp h
  obtain ⟨⟨hour, _⟩, _, h⟩ := Option.bind_eq_some_iff.mp h
  obtain ⟨_, _, h⟩ := Option.bind_eq_some_iff.mp h
  obtain ⟨⟨minute, _⟩, _, h⟩ := Option.bind_eq_some_iff.mp h
  obtain ⟨_, _, h⟩ := Option.bind_eq_some_iff.mp h
  obtain ⟨⟨second, _⟩, _, h⟩ := Option.bind_eq_some_iff.mp h
  obtain ⟨micro, _, h⟩ := Option.bind_eq_some_iff.mp h
  dsimp only at h
  split at h
  · next real =>
      rw [Bool.and_eq_true] at real
      exact ⟨_, _, real.1, real.2, (Option.some.inj h).symm⟩
  · cases h

/-- A timestamp stands for an instant about those of the calendar. -/
theorem natAbs_micros_lt {cs : List Char} {t : Instant} (h : timestamp? cs = some t) :
    t.micros.natAbs < 1000000 * 2 ^ 38 := by
  obtain ⟨d, c, date, clock, rfl⟩ := exists_of_timestamp h
  have days := dayNumber_lt date
  simp only [Instant.Clock.isReal, Bool.and_eq_true, decide_eq_true_eq] at clock
  simp only [Instant.of, Instant.Clock.micros, Instant.epochDays, Instant.dayMicros]
  omega

namespace Instant

/-! ## Rounded seconds -/

/-- The whole microseconds that rounding to seconds may move an instant by: half of
what the last bit of its seconds stands for. -/
def slack (t : Instant) : Int :=
  (1000000 * 2 ^ (t.micros.natAbs / 1000000).log2 / 2 ^ 53 : Nat)

/-- Half of the last bit is never a whole number of microseconds while the seconds
have less than 48 bits. -/
theorem slack_bounds {k : Nat} (small : k < 47) :
    ((1000000 * 2 ^ k / 2 ^ 53 : Nat) : ℚ) < 1000000 * 2 ^ ((k : Int) - 53) ∧
      1000000 * 2 ^ ((k : Int) - 53) < ((1000000 * 2 ^ k / 2 ^ 53 : Nat) : ℚ) + 1 := by
  have odd : ¬ 2 ^ 53 ∣ 1000000 * 2 ^ k := by
    intro divides
    rw [show 1000000 * 2 ^ k = 2 ^ (k + 6) * 15625 by ring] at divides
    have power := Nat.Coprime.dvd_of_dvd_mul_right (Nat.Coprime.pow_left 53 (by decide)) divides
    have far := (Nat.pow_dvd_pow_iff_le_right (by decide)).mp power
    omega
  have under : 1000000 * 2 ^ k / 2 ^ 53 * 2 ^ 53 < 1000000 * 2 ^ k :=
    lt_of_le_of_ne (Nat.div_mul_le_self _ _) fun same => odd (Dvd.intro_left _ same)
  have beyond := Nat.lt_div_mul_add (a := 1000000 * 2 ^ k) (b := 2 ^ 53) (by positivity)
  have scaled : (1000000 : ℚ) * 2 ^ ((k : Int) - 53) = 1000000 * 2 ^ k / 2 ^ 53 := by
    rw [zpow_sub₀ two_ne_zero, mul_div_assoc, zpow_natCast]
    norm_cast
  rw [scaled, lt_div_iff₀ (by positivity), div_lt_iff₀ (by positivity), add_one_mul]
  exact ⟨by exact_mod_cast under, by exact_mod_cast beyond⟩

theorem slack_nonneg (t : Instant) : 0 ≤ t.slack := Int.natCast_nonneg _

theorem log2_seconds_le {n k : Nat} (near : n < 1000000 * 2 ^ (k + 1)) :
    (n / 1000000).log2 ≤ k := by
  by_cases short : n / 1000000 = 0
  · simp [short]
  · refine Nat.le_of_lt_succ ((Nat.log2_lt short).mpr ?_)
    rwa [Nat.div_lt_iff_lt_mul (by decide), mul_comm]

theorem slack_le {t : Instant} {k : Nat} (near : t.micros.natAbs < 1000000 * 2 ^ (k + 1)) :
    t.slack ≤ (1000000 * 2 ^ k / 2 ^ 53 : Nat) := by
  have power := Nat.pow_le_pow_right (n := 2) (by decide) (log2_seconds_le near)
  exact Int.ofNat_le.mpr (Nat.div_le_div_right (Nat.mul_le_mul_left _ power))

theorem slack_le_fifteen {t : Instant} (near : t.micros.natAbs < 1000000 * 2 ^ 38) :
    t.slack ≤ 15 :=
  slack_le (k := 37) near

/-- Less than `2 ^ 34` seconds from the start of 1970, no whole microsecond is lost. -/
theorem slack_eq_zero {t : Instant} (near : t.micros.natAbs < 1000000 * 2 ^ 34) : t.slack = 0 :=
  le_antisymm (slack_le (k := 33) near) t.slack_nonneg

/-- Half of the last bit of some seconds, in microseconds. -/
theorem exponentOf_micros {n : Nat} (filled : n ≠ 0) (near : n < 1000000 * 2 ^ 38) :
    Binary64.exponentOf n 1000000 ≤ 0 ∧
      ((1000000 * 2 ^ (n / 1000000).log2 / 2 ^ 53 : Nat) : ℚ) <
        1000000 * 2 ^ (Binary64.exponentOf n 1000000 - 1) ∧
      1000000 * (2 : ℚ) ^ (Binary64.exponentOf n 1000000 - 1) <
        ((1000000 * 2 ^ (n / 1000000).log2 / 2 ^ 53 : Nat) : ℚ) + 1 := by
  by_cases short : n / 1000000 = 0
  · have below : (n : ℚ) / (1000000 : Nat) < 2 ^ (0 : Int) := by
      simpa using (natDiv_lt_iff (m := 1) (by decide)).mp (show n / 1000000 < 1 by omega)
    have exponent := Binary64.exponentOf_le filled (by decide) below (by decide)
    have power : (2 : ℚ) ^ (Binary64.exponentOf n 1000000 - 1) ≤ 2 ^ (-54 : Int) :=
      zpow_le_zpow_right₀ one_le_two (by omega)
    have unit : (0 : ℚ) < 2 ^ (Binary64.exponentOf n 1000000 - 1) := zpow_pos two_pos _
    rw [short]
    norm_num at power ⊢
    exact ⟨by omega, unit, by linarith⟩
  · have small := log2_seconds_le (k := 37) near
    have low : (2 : ℚ) ^ ((n / 1000000).log2 : Int) ≤ n / (1000000 : Nat) := by
      rw [← not_lt, zpow_natCast]
      exact_mod_cast mt (natDiv_lt_iff (by decide)).mpr (Nat.log2_self_le short).not_gt
    have high : (n : ℚ) / (1000000 : Nat) < 2 ^ (((n / 1000000).log2 : Int) + 1) := by
      exact_mod_cast (natDiv_lt_iff (by decide)).mp (Nat.lt_log2_self (n := n / 1000000))
    rw [Binary64.exponentOf_eq filled (by decide) low high
      (by rw [Binary64.minExponent]; omega), sub_sub]
    exact ⟨by omega, slack_bounds (by omega)⟩

/-- The seconds of an instant are rounded within its slack. -/
theorem exists_roundsTo_seconds {t : Instant} (near : t.micros.natAbs < 1000000 * 2 ^ 38) :
    ∃ v reach : ℚ, t.seconds.value? = some v ∧ RoundsTo (t.micros / (1000000 : Nat)) v reach ∧
      t.slack < (1000000 : Nat) * reach ∧ (1000000 : Nat) * reach < t.slack + 1 := by
  by_cases filled : t.micros.natAbs = 0
  -- Zero has no exponent of its own, so its reach is chosen.
  · rw [Int.natAbs_eq_zero] at filled
    have fits : ((1000000 : Nat) : ℚ) * (1 / 1000000) = 1 := by norm_num
    have exact := (RoundsTo.of_half (x := 0) (m := 0) (by norm_num)).scale (by norm_num) fits
    refine ⟨0, 1 / 2 * (1 / 1000000), ?_, by simpa [filled] using exact, ?_⟩
    · simp [seconds, filled, Binary64.ofRatio, Binary64.zero, Binary64.value?]
    · norm_num [slack, filled]
  obtain ⟨whole, low, high⟩ := exponentOf_micros filled near
  have rounded := Binary64.roundsTo_mantissaOf (n := t.micros.natAbs) (d := 1000000) (by decide)
    whole
  have finite := Binary64.value?_ofRatio (decide (t.micros < 0)) filled (d := 1000000) (by decide)
    (whole.trans_lt (by decide))
  refine ⟨_, _, finite, ?_, by exact_mod_cast low, by exact_mod_cast high⟩
  by_cases negative : t.micros < 0
  · rw [Nat.cast_natAbs, abs_of_neg negative, Int.cast_neg, neg_div] at rounded
    simpa [negative] using rounded.neg
  · rw [Nat.cast_natAbs, abs_of_nonneg (not_lt.mp negative)] at rounded
    simpa [negative] using rounded

theorem floor?_seconds {t : Instant} (near : t.micros.natAbs < 1000000 * 2 ^ 38) :
    t.seconds.floor? = some ((t.micros + t.slack) / 1000000) := by
  obtain ⟨v, reach, found, rounded, low, high⟩ := exists_roundsTo_seconds near
  rw [Binary64.floor?_of_value? found, rounded.floor_eq (by decide) low high, Nat.cast_ofNat]

theorem ceil?_seconds {t : Instant} (near : t.micros.natAbs < 1000000 * 2 ^ 38) :
    t.seconds.ceil? = some (-((t.slack - t.micros) / 1000000)) := by
  obtain ⟨v, reach, found, rounded, low, high⟩ := exists_roundsTo_seconds near
  rw [Binary64.ceil?_of_value? found, rounded.ceil_eq (by decide) low high, Nat.cast_ofNat]

/-- The whole seconds below an instant are not above those over a later one. -/
theorem exists_bounds {a b : Instant} (before : a < b)
    (near : a.micros.natAbs < 1000000 * 2 ^ 38) (near' : b.micros.natAbs < 1000000 * 2 ^ 38) :
    ∃ i j : Int, a.seconds.floor? = some i ∧ b.seconds.ceil? = some j ∧ i ≤ j := by
  have order : a.micros < b.micros := before
  have few := slack_le_fifteen near
  have few' := slack_le_fifteen near'
  exact ⟨_, _, floor?_seconds near, ceil?_seconds near', by omega⟩

end Instant

end HostMonitor.Time
