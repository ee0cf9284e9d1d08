import HostMonitor.Number.Binary64
import Mathlib.Algebra.Order.Field.Power
import Mathlib.Data.Rat.Floor
import Mathlib.Tactic.FieldSimp
import Mathlib.Tactic.Linarith
import Mathlib.Tactic.Positivity
import Mathlib.Tactic.Ring

/-!
# How far rounding goes

A finite floating point number stands for a rational number, and its floor and its
ceiling are those of the rational.  The number that is nearest to a quotient below
`2 ^ k` differs from it by at most `2 ^ (k - 54)`: a mantissa of 53 bits leaves that
much.

As long as the last bit of a mantissa is not worth more than one, rounding passes no
integer, but it meets one that is near enough.  `RoundsTo` says so, and the floor and
the ceiling of the rounded number follow from it.
-/

namespace HostMonitor.Number

/-! ## Quotients -/

theorem natDiv_lt_iff {n d m : Nat} (pos : 0 < d) : n / d < m ↔ (n : ℚ) / d < m := by
  rw [Nat.div_lt_iff_lt_mul pos, div_lt_iff₀ (Nat.cast_pos.mpr pos)]
  exact_mod_cast Iff.rfl

/-- The least integer that is not below a quotient. -/
theorem ceil_natDiv (n : Nat) {d : Nat} (pos : 0 < d) :
    ⌈(n : ℚ) / d⌉ = ((n + d - 1) / d : Nat) := by
  have positive : (0 : ℚ) < d := Nat.cast_pos.mpr pos
  have below := Nat.div_mul_le_self (n + d - 1) d
  have above := Nat.lt_div_mul_add (a := n + d - 1) pos
  rw [Int.ceil_eq_iff, Int.cast_natCast, lt_div_iff₀ positive, div_le_iff₀ positive, sub_mul,
    one_mul, sub_lt_iff_lt_add]
  constructor
  · exact_mod_cast (by omega : (n + d - 1) / d * d < n + d)
  · exact_mod_cast (by omega : n ≤ (n + d - 1) / d * d)

/-- A quotient rounded to the nearest integer differs from it by a half at most. -/
theorem abs_roundDiv_sub_le (n : Nat) {d : Nat} (pos : 0 < d) :
    |(roundDiv n d : ℚ) - n / d| ≤ 1 / 2 := by
  have positive : (0 : ℚ) < d := Nat.cast_pos.mpr pos
  have near : 2 * (roundDiv n d * d) ≤ 2 * n + d ∧ 2 * n ≤ 2 * (roundDiv n d * d) + d := by
    have whole := Nat.div_add_mod' n d
    have rest := Nat.mod_lt n pos
    rw [roundDiv]
    split
    · next up =>
        simp only [gt_iff_lt, Bool.or_eq_true, decide_eq_true_eq, Bool.and_eq_true,
          beq_iff_eq] at up
        rw [Nat.add_one_mul (n / d) d]
        omega
    · next down =>
        simp only [gt_iff_lt, Bool.or_eq_true, decide_eq_true_eq, not_or] at down
        omega
  have above : 2 * ((roundDiv n d : ℚ) * d) ≤ 2 * n + d := by exact_mod_cast near.1
  have under : 2 * (n : ℚ) ≤ 2 * (roundDiv n d * d) + d := by exact_mod_cast near.2
  have back : (n : ℚ) / d * d = n := div_mul_cancel₀ _ positive.ne'
  rw [abs_le]
  constructor
  · refine le_of_mul_le_mul_right ?_ positive
    linarith
  · refine le_of_mul_le_mul_right ?_ positive
    linarith

theorem roundDiv_le {n d most : Nat} (below : n / d < most) : roundDiv n d ≤ most := by
  rw [roundDiv]
  split
  · exact below
  · exact below.le

/-! ## Integers -/

/-- What rounding leaves of a number: it moves no further than `reach`, meets an integer
that is nearer than that, and passes none. -/
structure RoundsTo (x v reach : ℚ) : Prop where
  near : |v - x| ≤ reach
  snaps : ∀ k : ℤ, |k - x| < reach → v = k
  above : ∀ k : ℤ, k ≤ x → k ≤ v
  below : ∀ k : ℤ, x ≤ k → v ≤ k

namespace RoundsTo

variable {x v reach : ℚ}

theorem neg (h : RoundsTo x v reach) : RoundsTo (-x) (-v) reach where
  near := by
    rw [neg_sub_neg, abs_sub_comm]
    exact h.near
  snaps := by
    intro k close
    rw [sub_neg_eq_add, ← abs_neg, neg_add, ← sub_eq_add_neg] at close
    have met := h.snaps (-k) (by push_cast; exact close)
    rw [met, Int.cast_neg, neg_neg]
  above := by
    intro k le
    have below := h.below (-k) (by push_cast; linarith)
    push_cast at below
    linarith
  below := by
    intro k le
    have above := h.above (-k) (by push_cast; linarith)
    push_cast at above
    linarith

/-- The floor after rounding is the floor of what lies as many parts further on as the
reach has. -/
theorem floor_eq {m s : ℤ} {d : ℕ} (h : RoundsTo (m / d) v reach) (pos : 0 < d)
    (low : s < d * reach) (high : d * reach < s + 1) : ⌊v⌋ = (m + s) / d := by
  have positive : (0 : ℚ) < d := Nat.cast_pos.mpr pos
  have whole : (m : ℚ) = m / d * d := (div_mul_cancel₀ _ positive.ne').symm
  have under : (m + s) / d * d ≤ m + s := Int.ediv_mul_le _ (by omega)
  have beyond : m + s < ((m + s) / d + 1) * d := Int.lt_ediv_add_one_mul_self _ (by omega)
  generalize (m + s) / (d : ℤ) = k at under beyond ⊢
  have beyond' : (m + s + 1 : ℚ) ≤ (k + 1) * d := by exact_mod_cast beyond
  rw [Int.floor_eq_iff]
  constructor
  -- Rounding stays above an integer that is passed, and goes up to one that is near.
  · by_cases passed : k * d ≤ m
    · have passed' : (k * d : ℚ) ≤ m := by exact_mod_cast passed
      exact h.above k ((le_div_iff₀ positive).mpr passed')
    · have short : (m : ℚ) < k * d := by exact_mod_cast not_le.mp passed
      have under' : (k * d : ℚ) ≤ m + s := by exact_mod_cast under
      refine (h.snaps k ?_).ge
      rw [abs_of_pos (by rw [sub_pos, div_lt_iff₀ positive]; exact short)]
      refine lt_of_mul_lt_mul_left ?_ positive.le
      linarith
  · have far := (abs_le.mp h.near).2
    refine lt_of_mul_lt_mul_right ?_ positive.le
    nlinarith

theorem ceil_eq {m s : ℤ} {d : ℕ} (h : RoundsTo (m / d) v reach) (pos : 0 < d)
    (low : s < d * reach) (high : d * reach < s + 1) : ⌈v⌉ = -((s - m) / d) := by
  have turned := h.neg
  rw [← neg_div, ← Int.cast_neg] at turned
  rw [← neg_neg v, Int.ceil_neg, turned.floor_eq pos low high, neg_add_eq_sub]

/-- An integer that is at most a half away is reached by rounding to integers. -/
theorem of_half {m : ℤ} (half : |(m : ℚ) - x| ≤ 1 / 2) : RoundsTo x m (1 / 2) := by
  have bounds := abs_le.mp half
  have up : ∀ k : ℤ, k ≤ x → k ≤ m := by
    intro k le
    have less : (k : ℚ) < m + 1 := by linarith
    exact Int.lt_add_one_iff.mp (by exact_mod_cast less)
  have down : ∀ k : ℤ, x ≤ k → m ≤ k := by
    intro k le
    have less : (m : ℚ) < k + 1 := by linarith
    exact Int.lt_add_one_iff.mp (by exact_mod_cast less)
  refine ⟨half, fun k close => ?_, fun k le => Int.cast_le.mpr (up k le),
    fun k le => Int.cast_le.mpr (down k le)⟩
  rw [abs_lt] at close
  have less : (m : ℚ) < k + 1 := by linarith
  have more : (k : ℚ) < m + 1 := by linarith
  exact congrArg _ (le_antisymm (Int.lt_add_one_iff.mp (by exact_mod_cast less))
    (Int.lt_add_one_iff.mp (by exact_mod_cast more)))

/-- Rounding to a grid on which all integers lie. -/
theorem scale {unit : ℚ} {parts : ℕ} (h : RoundsTo x v reach) (positive : 0 < unit)
    (fits : parts * unit = 1) : RoundsTo (x * unit) (v * unit) (reach * unit) := by
  have placed : ∀ k : ℤ, (k : ℚ) = (k * parts : ℤ) * unit := by
    intro k
    push_cast
    rw [mul_assoc, fits, mul_one]
  refine ⟨?_, fun k close => ?_, fun k le => ?_, fun k le => ?_⟩
  · rw [← sub_mul, abs_mul, abs_of_pos positive]
    exact mul_le_mul_of_nonneg_right h.near positive.le
  · rw [placed, ← sub_mul, abs_mul, abs_of_pos positive] at close
    rw [placed, h.snaps _ (lt_of_mul_lt_mul_right close positive.le)]
  · rw [placed] at le ⊢
    exact mul_le_mul_of_nonneg_right (h.above _ (le_of_mul_le_mul_right le positive)) positive.le
  · rw [placed] at le ⊢
    exact mul_le_mul_of_nonneg_right (h.below _ (le_of_mul_le_mul_right le positive)) positive.le

end RoundsTo

namespace Binary64

/-! ## Values -/

/-- The rational number that a finite number stands for. -/
def value? : Binary64 → Option ℚ
  | .finite negative mantissa exponent =>
    some ((if negative then -1 else 1) * (mantissa * 2 ^ exponent))
  | _ => none

theorem isPositive_iff {x : Binary64} {v : ℚ} (h : x.value? = some v) :
    x.isPositive = true ↔ 0 < v := by
  cases x with
  | finite negative mantissa exponent =>
      have unit : (0 : ℚ) < 2 ^ exponent := zpow_pos two_pos _
      cases h
      cases negative with
      | true =>
          have size : (0 : ℚ) ≤ mantissa * 2 ^ exponent := by positivity
          simp only [isPositive, Bool.not_true, Bool.false_and, Bool.false_eq_true, if_true,
            false_iff, not_lt]
          linarith
      | false => simp [isPositive, mul_pos_iff_of_pos_right unit, Nat.pos_iff_ne_zero]
  | infinite negative => cases h
  | nan => cases h

theorem ratio_pos (mantissa : Nat) (exponent : Int) : 0 < (ratio mantissa exponent).2 := by
  rw [ratio]
  split
  · exact Nat.pow_pos (by decide)
  · exact Nat.one_pos

theorem ratio_value (mantissa : Nat) (exponent : Int) :
    ((ratio mantissa exponent).1 : ℚ) / (ratio mantissa exponent).2 = mantissa * 2 ^ exponent := by
  rw [ratio]
  split
  · next negative =>
      obtain ⟨k, rfl⟩ := Int.exists_eq_neg_ofNat negative.le
      simp [zpow_neg, div_eq_mul_inv]
  · next nonneg =>
      obtain ⟨k, rfl⟩ := Int.eq_ofNat_of_zero_le (not_lt.mp nonneg)
      simp

theorem floor?_of_value? {x : Binary64} {v : ℚ} (h : x.value? = some v) : x.floor? = some ⌊v⌋ := by
  cases x with
  | finite negative mantissa exponent =>
      have pos := ratio_pos mantissa exponent
      rw [value?, ← ratio_value] at h
      rw [floor?, ← Option.some.inj h]
      cases negative with
      | true => simp [Int.floor_neg, ceil_natDiv _ pos]
      | false => simp [Rat.floor_natCast_div_natCast]
  | infinite negative => cases h
  | nan => cases h

theorem ceil?_of_value? {x : Binary64} {v : ℚ} (h : x.value? = some v) : x.ceil? = some ⌈v⌉ := by
  cases x with
  | finite negative mantissa exponent =>
      have pos := ratio_pos mantissa exponent
      rw [value?, ← ratio_value] at h
      rw [ceil?, ← Option.some.inj h]
      cases negative with
      | true => simp [Int.ceil_neg, Rat.floor_natCast_div_natCast]
      | false => simp [ceil_natDiv _ pos]
  | infinite negative => cases h
  | nan => cases h

/-! ## Rounding -/

theorem scaleDown_pos (n : Nat) {d : Nat} (pos : 0 < d) (exponent : Int) :
    0 < (scaleDown n d exponent).2 := by
  rw [scaleDown]
  split
  · exact pos
  · exact Nat.mul_pos pos (Nat.pow_pos (by decide))

theorem scaleDown_value (n d : Nat) (exponent : Int) :
    ((scaleDown n d exponent).1 : ℚ) / (scaleDown n d exponent).2 = n / d / 2 ^ exponent := by
  rw [scaleDown]
  split
  · next negative =>
      obtain ⟨k, rfl⟩ := Int.exists_eq_neg_ofNat negative.le
      simp [zpow_neg, div_eq_mul_inv]
      ring
  · next nonneg =>
      obtain ⟨k, rfl⟩ := Int.eq_ofNat_of_zero_le (not_lt.mp nonneg)
      simp [div_div]

/-- A number lies between the powers of two about its logarithm. -/
theorem log2_bounds {n : Nat} (filled : n ≠ 0) :
    (2 : ℚ) ^ (n.log2 : Int) ≤ n ∧ (n : ℚ) < 2 ^ ((n.log2 : Int) + 1) := by
  constructor
  · exact_mod_cast Nat.log2_self_le filled
  · exact_mod_cast Nat.lt_log2_self

/-- A quotient lies between the powers of two about the difference of logarithms. -/
theorem quotient_bounds {n d : Nat} (filled : n ≠ 0) (pos : 0 < d) :
    (2 : ℚ) ^ ((n.log2 : Int) - d.log2 - 1) < n / d ∧
      (n : ℚ) / d < 2 ^ ((n.log2 : Int) - d.log2 + 1) := by
  have positive : (0 : ℚ) < d := Nat.cast_pos.mpr pos
  obtain ⟨low, high⟩ := log2_bounds filled
  obtain ⟨low', high'⟩ := log2_bounds pos.ne'
  constructor
  · rw [lt_div_iff₀ positive]
    calc (2 : ℚ) ^ ((n.log2 : Int) - d.log2 - 1) * d
        < 2 ^ ((n.log2 : Int) - d.log2 - 1) * 2 ^ ((d.log2 : Int) + 1) := by gcongr
      _ = 2 ^ (n.log2 : Int) := by
          rw [← zpow_add₀ two_ne_zero]
          congr 1
          omega
      _ ≤ n := low
  · rw [div_lt_iff₀ positive]
    calc (n : ℚ) < 2 ^ ((n.log2 : Int) + 1) := high
      _ = 2 ^ ((n.log2 : Int) - d.log2 + 1) * 2 ^ (d.log2 : Int) := by
          rw [← zpow_add₀ two_ne_zero]
          congr 1
          omega
      _ ≤ 2 ^ ((n.log2 : Int) - d.log2 + 1) * d := by gcongr

/-- The exponent is the one at which the mantissa of a quotient has 53 bits, unless
that is too small. -/
theorem exists_exponentOf {n d : Nat} (filled : n ≠ 0) (pos : 0 < d) :
    ∃ e, exponentOf n d = max e minExponent ∧
      (2 : ℚ) ^ (e + 52) ≤ n / d ∧ (n : ℚ) / d < 2 ^ (e + 53) := by
  obtain ⟨low, high⟩ := quotient_bounds filled pos
  let guess : Int := (n.log2 : Int) - d.log2 - 53
  have found : exponentOf n d = max (if (scaleDown n d guess).1 / (scaleDown n d guess).2 <
      Nat.pow 2 53 then guess else guess + 1) minExponent := rfl
  have fits : (scaleDown n d guess).1 / (scaleDown n d guess).2 < Nat.pow 2 53 ↔
      (n : ℚ) / d < 2 ^ (guess + 53) := by
    rw [natDiv_lt_iff (scaleDown_pos n pos guess), scaleDown_value,
      div_lt_iff₀ (zpow_pos two_pos guess), add_comm, zpow_add₀ two_ne_zero]
    norm_num
  rw [found]
  -- The logarithms leave two powers of two for the quotient, and the test tells which.
  by_cases small : (n : ℚ) / d < 2 ^ (guess + 53)
  · rw [if_pos (fits.mpr small)]
    refine ⟨guess, rfl, ?_, small⟩
    rw [show guess + 52 = (n.log2 : Int) - d.log2 - 1 by omega]
    exact low.le
  · rw [if_neg (mt fits.mp small)]
    refine ⟨guess + 1, rfl, ?_, ?_⟩
    · rw [show guess + 1 + 52 = guess + 53 by omega]
      exact not_lt.mp small
    · rw [show guess + 1 + 53 = (n.log2 : Int) - d.log2 + 1 by omega]
      exact high

/-- The exponent leaves a mantissa of at most 53 bits. -/
theorem quotient_lt {n d : Nat} (filled : n ≠ 0) (pos : 0 < d) :
    (n : ℚ) / d / 2 ^ exponentOf n d < 2 ^ 53 := by
  obtain ⟨e, found, _, high⟩ := exists_exponentOf filled pos
  rw [div_lt_iff₀ (zpow_pos two_pos _)]
  calc (n : ℚ) / d < 2 ^ (e + 53) := high
    _ ≤ 2 ^ (exponentOf n d + 53) := by
        refine zpow_le_zpow_right₀ one_le_two ?_
        omega
    _ = 2 ^ 53 * 2 ^ exponentOf n d := by
        rw [add_comm, zpow_add₀ two_ne_zero]
        norm_num

/-- The exponent of a quotient below a power of two. -/
theorem exponentOf_le {n d : Nat} (filled : n ≠ 0) (pos : 0 < d) {k : Int}
    (below : (n : ℚ) / d < 2 ^ k) (least : minExponent ≤ k - 53) : exponentOf n d ≤ k - 53 := by
  obtain ⟨e, found, low, _⟩ := exists_exponentOf filled pos
  have less := (zpow_lt_zpow_iff_right₀ (one_lt_two : (1 : ℚ) < 2)).mp (low.trans_lt below)
  omega

/-- The exponent of a quotient between two powers of two. -/
theorem exponentOf_eq {n d : Nat} (filled : n ≠ 0) (pos : 0 < d) {k : Int}
    (low : (2 : ℚ) ^ k ≤ n / d) (high : (n : ℚ) / d < 2 ^ (k + 1)) (least : minExponent ≤ k - 52) :
    exponentOf n d = k - 52 := by
  obtain ⟨e, found, low', high'⟩ := exists_exponentOf filled pos
  have up := (zpow_lt_zpow_iff_right₀ (one_lt_two : (1 : ℚ) < 2)).mp (low'.trans_lt high)
  have down := (zpow_lt_zpow_iff_right₀ (one_lt_two : (1 : ℚ) < 2)).mp (low.trans_lt high')
  omega

/-- The integer that is nearest to a quotient at its exponent. -/
def mantissaOf (n d : Nat) : Nat :=
  roundDiv (scaleDown n d (exponentOf n d)).1 (scaleDown n d (exponentOf n d)).2

theorem mantissaOf_le {n d : Nat} (filled : n ≠ 0) (pos : 0 < d) : mantissaOf n d ≤ 2 ^ 53 := by
  refine roundDiv_le ((natDiv_lt_iff (scaleDown_pos n pos _)).mpr ?_)
  rw [scaleDown_value]
  exact_mod_cast quotient_lt filled pos

/-- The mantissa at its exponent is the quotient rounded. -/
theorem roundsTo_mantissaOf {n d : Nat} (pos : 0 < d) (small : exponentOf n d ≤ 0) :
    RoundsTo ((n : ℚ) / d) (mantissaOf n d * 2 ^ exponentOf n d) (2 ^ (exponentOf n d - 1)) := by
  have half := abs_roundDiv_sub_le (scaleDown n d (exponentOf n d)).1
    (scaleDown_pos n pos (exponentOf n d))
  rw [scaleDown_value] at half
  have unit : (0 : ℚ) < 2 ^ exponentOf n d := zpow_pos two_pos _
  obtain ⟨parts, exponent⟩ := Int.exists_eq_neg_ofNat small
  have fits : ((2 ^ parts : ℕ) : ℚ) * 2 ^ exponentOf n d = 1 := by
    rw [exponent, zpow_neg, zpow_natCast]
    push_cast
    exact mul_inv_cancel₀ (by positivity)
  have rounded := (RoundsTo.of_half (m := mantissaOf n d) half).scale unit fits
  rw [div_mul_cancel₀ _ unit.ne'] at rounded
  rw [zpow_sub_one₀ two_ne_zero, mul_comm _ (2 : ℚ)⁻¹, ← one_div]
  exact rounded

theorem value?_ofRatio (negative : Bool) {n d : Nat} (filled : n ≠ 0) (pos : 0 < d)
    (small : exponentOf n d < maxExponent) :
    (ofRatio negative n d).value? =
      some ((if negative then -1 else 1) * ((mantissaOf n d : ℚ) * 2 ^ exponentOf n d)) := by
  have room := mantissaOf_le filled pos
  rw [ofRatio, if_neg filled]
  dsimp only
  generalize scaled : scaleDown n d (exponentOf n d) = pair
  obtain ⟨a, b⟩ := pair
  have mantissa : roundDiv a b = mantissaOf n d := by rw [mantissaOf, scaled]
  dsimp only
  rw [mantissa]
  by_cases fits : mantissaOf n d < Nat.pow 2 53
  · rw [if_pos fits]
    dsimp only
    rw [if_neg (by omega), value?]
  · -- A mantissa that is rounded up to 54 bits is a power of two.
    have full : mantissaOf n d = 2 ^ 53 := le_antisymm room (not_lt.mp fits)
    have same : ((Nat.pow 2 52 : Nat) : ℚ) * 2 ^ (exponentOf n d + 1) =
        ((2 ^ 53 : Nat) : ℚ) * 2 ^ exponentOf n d := by
      rw [zpow_add_one₀ two_ne_zero, Nat.pow_eq]
      push_cast
      ring
    rw [if_neg fits]
    dsimp only
    rw [if_neg (by omega), value?, full, same]

/-- A quotient below a power of two is rounded to a finite number near it. -/
theorem exists_value_ofRatio (negative : Bool) (n : Nat) {d : Nat} (pos : 0 < d) {k : Int}
    (below : (n : ℚ) / d < 2 ^ k) (least : minExponent ≤ k - 53) (most : k ≤ 53) :
    ∃ v : ℚ, (ofRatio negative n d).value? = some ((if negative then -1 else 1) * v) ∧
      |v - n / d| ≤ 2 ^ (k - 54) := by
  by_cases filled : n = 0
  · refine ⟨0, ?_, ?_⟩
    · simp [filled, ofRatio, zero, value?]
    · have nonneg : (0 : ℚ) ≤ 2 ^ (k - 54) := zpow_nonneg zero_le_two _
      simpa [filled] using nonneg
  have small := exponentOf_le filled pos below least
  have whole : exponentOf n d ≤ 0 := by omega
  have representable : exponentOf n d < maxExponent := whole.trans_lt (by decide)
  refine ⟨_, value?_ofRatio negative filled pos representable, ?_⟩
  refine (roundsTo_mantissaOf pos whole).near.trans ?_
  refine zpow_le_zpow_right₀ one_le_two ?_
  omega

end Binary64

end HostMonitor.Number
