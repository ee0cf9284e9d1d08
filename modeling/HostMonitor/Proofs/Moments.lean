import HostMonitor.Number.Reader
import HostMonitor.Proofs.Rounding
import HostMonitor.Time.Instant

/-!
# The instant of some seconds

Seconds are read from a text as a number with a mantissa of 53 bits.  Close to the end
of the calendar few of them stand after the point, so a fraction is never rounded up to
a whole second there.  Positive seconds have an instant in the calendar if and only if
they are below its end, and the instant is less than a microsecond away.
-/

namespace HostMonitor

namespace Number

/-! ## Mantissas -/

namespace Binary64

/-- A finite number has a mantissa of 53 bits. -/
def Narrow : Binary64 → Prop
  | .finite _ mantissa _ => mantissa < 2 ^ 53
  | _ => True

theorem narrow_zero (negative : Bool) : (zero negative).Narrow := Nat.pow_pos (by decide)

theorem ofRatio_eq_finite {negative s : Bool} {n d m : Nat} {e : Int}
    (h : ofRatio negative n d = .finite s m e) : s = negative ∧ m < 2 ^ 53 := by
  rw [ofRatio] at h
  split at h
  · cases h
    exact ⟨rfl, Nat.pow_pos (by decide)⟩
  · dsimp only at h
    split at h
    · next fits =>
        dsimp only at h
        split at h
        · cases h
        · cases h
          exact ⟨rfl, fits⟩
    · dsimp only at h
      split at h
      · cases h
      · cases h
        exact ⟨rfl, by decide⟩

theorem narrow_ofRatio (negative : Bool) (n d : Nat) : (ofRatio negative n d).Narrow := by
  cases h : ofRatio negative n d with
  | finite s m e => exact (ofRatio_eq_finite h).2
  | infinite s => trivial
  | nan => trivial

theorem narrow_ofDecimal (negative : Bool) (digits : Nat) (exponent : Int) :
    (ofDecimal negative digits exponent).Narrow := by
  rw [ofDecimal]
  split
  · exact narrow_zero negative
  · split
    · trivial
    · split
      · exact narrow_ofRatio _ _ _
      · exact narrow_ofRatio _ _ _

/-- A positive value is that of a mantissa at its exponent. -/
theorem exists_finite {x : Binary64} {v : ℚ} (found : x.value? = some v) (positive : 0 < v) :
    ∃ m e, x = .finite false m e ∧ v = m * 2 ^ e := by
  have sign := (isPositive_iff found).mpr positive
  cases x with
  | finite negative m e =>
      cases negative with
      | true => cases sign
      | false => exact ⟨m, e, rfl, by simpa [value?, eq_comm] using found⟩
  | infinite negative => cases found
  | nan => cases found

/-- A number of at least `2 ^ 37` has no more than 16 bits after the point. -/
theorem ratio_le {m : Nat} {e : Int} (narrow : m < 2 ^ 53)
    (far : 2 ^ 37 ≤ (ratio m e).1 / (ratio m e).2) : (ratio m e).2 ≤ 2 ^ 16 := by
  rw [ratio] at far ⊢
  split at far
  · next negative =>
      rw [if_pos negative]
      have room := (Nat.le_div_iff_mul_le (Nat.pow_pos (by decide))).mp far
      simp only [Nat.pow_eq] at room ⊢
      omega
  · next nonneg =>
      rw [if_neg nonneg]
      exact Nat.one_le_two_pow

end Binary64

theorem narrow_of_decimal? {cs : List Char} {x : Binary64} (h : decimal? cs = some x) :
    x.Narrow := by
  have spelled : ∀ {negative : Bool} {whole fraction rest : List Char},
      (if whole.isEmpty && fraction.isEmpty then none
        else (exponent? rest).map fun e => Binary64.ofDecimal negative
          (natOfDigits (whole ++ fraction)) (e - fraction.length)) = some x → x.Narrow := by
    intro negative whole fraction rest h
    split at h
    · cases h
    · obtain ⟨e, _, rfl⟩ := Option.map_eq_some_iff.mp h
      exact Binary64.narrow_ofDecimal _ _ _
  rw [decimal?] at h
  dsimp only at h
  split at h
  · cases h
    trivial
  · split at h
    · cases h
      trivial
    · split at h
      · exact spelled h
      · exact spelled h

theorem narrow_of_float? {cs : List Char} {x : Binary64} (h : float? cs = some x) : x.Narrow := by
  obtain ⟨digits, _, h⟩ := Option.bind_eq_some_iff.mp h
  exact narrow_of_decimal? h

end Number

/-! ## Seconds -/

namespace Time.Instant

open Number Binary64

/-- A fraction of a second is turned into the nearest microsecond, or almost. -/
theorem exists_fractionMicros {r d : Nat} (pos : 0 < d) (part : r < d) :
    ∃ k, fractionMicros? r d = some k ∧ |(k : ℚ) - r / d * 1000000| < 1 := by
  have positive : (0 : ℚ) < d := Nat.cast_pos.mpr pos
  have below : ((1000000 * r : Nat) : ℚ) / d < 2 ^ (20 : Int) := by
    rw [div_lt_iff₀ positive]
    have less : (r : ℚ) < d := Nat.cast_lt.mpr part
    push_cast
    linarith
  obtain ⟨v, found, close⟩ :=
    exists_value_ofRatio false (1000000 * r) pos below (by decide) (by decide)
  cases rounded : ofRatio false (1000000 * r) d with
  | infinite s =>
      rw [rounded] at found
      cases found
  | nan =>
      rw [rounded] at found
      cases found
  | finite s m e =>
      refine ⟨_, by rw [fractionMicros?, rounded], ?_⟩
      obtain ⟨rfl, _⟩ := ofRatio_eq_finite rounded
      have half := abs_roundDiv_sub_le (ratio m e).1 (ratio_pos m e)
      rw [rounded, value?, if_neg Bool.false_ne_true, one_mul, one_mul] at found
      rw [ratio_value, Option.some.inj found] at half
      have whole : (r : ℚ) / d * 1000000 = ((1000000 * r : Nat) : ℚ) / d := by
        push_cast
        ring
      have tiny : (2 : ℚ) ^ ((20 : Int) - 54) < 1 / 2 := by norm_num
      rw [whole]
      calc |(roundDiv (ratio m e).1 (ratio m e).2 : ℚ) - (1000000 * r : Nat) / d|
          ≤ |(roundDiv (ratio m e).1 (ratio m e).2 : ℚ) - v| + |v - (1000000 * r : Nat) / d| :=
            abs_sub_le _ _ _
        _ < 1 / 2 + 1 / 2 := add_lt_add_of_le_of_lt half (close.trans_lt tiny)
        _ = 1 := by norm_num

/-- A fraction is rounded up to a second only if it has many bits. -/
theorem micros_le {r d k : Nat} (part : r < d) (close : |(k : ℚ) - r / d * 1000000| < 1) :
    k ≤ 1000000 ∧ (d ≤ 2 ^ 16 → k < 1000000) := by
  have positive : (0 : ℚ) < d := Nat.cast_pos.mpr (Nat.zero_lt_of_lt part)
  have below : k * d < r * 1000000 + d := by
    have times : (r : ℚ) / d * 1000000 * d = r * 1000000 := by
      rw [mul_right_comm, div_mul_cancel₀ _ positive.ne']
    have less := mul_lt_mul_of_pos_right (abs_lt.mp close).2 positive
    rw [sub_mul, times, one_mul, sub_lt_iff_lt_add'] at less
    exact_mod_cast less
  constructor
  · by_contra more
    have least := Nat.mul_le_mul_right d (not_le.mp more)
    rw [Nat.succ_mul] at least
    omega
  · intro few
    by_contra more
    have least := Nat.mul_le_mul_right d (not_lt.mp more)
    omega

/-- Whole seconds and some microseconds lie in the calendar as the seconds do. -/
theorem inRange_iff {n d k : Nat} (pos : 0 < d) (far : 2 ^ 37 ≤ n / d → d ≤ 2 ^ 16)
    (close : |(k : ℚ) - (n % d : Nat) / d * 1000000| < 1) :
    (⟨(n / d : Nat) * 1000000 + k⟩ : Instant).inRange = true ↔ (n : ℚ) / d < 253402300800 := by
  obtain ⟨most, less⟩ := micros_le (Nat.mod_lt n pos) close
  have whole : n / d < 253402300800 ↔ (n : ℚ) / d < 253402300800 := by
    exact_mod_cast natDiv_lt_iff (n := n) (m := 253402300800) pos
  rw [← whole, inRange, Bool.and_eq_true, decide_eq_true_eq, decide_eq_true_eq]
  show -62135596800000000 ≤ ((n / d : Nat) * 1000000 + k : Int) ∧
    ((n / d : Nat) * 1000000 + k : Int) ≤ 253402300799999999 ↔ _
  generalize n / d = w at far
  constructor
  · omega
  · intro early
    -- Only in the last second of the calendar would rounding up leave it.
    by_cases last : w = 253402300799
    · have fewer := less (far (by omega))
      omega
    · omega

/-- The instant of positive seconds. -/
theorem ofSeconds?_eq {x : Binary64} (narrow : x.Narrow) {v : ℚ} (found : x.value? = some v)
    (positive : 0 < v) :
    ∃ t : Instant, |(t.micros : ℚ) - 1000000 * v| < 1 ∧
      ofSeconds? x = if v < 253402300800 then some t else none := by
  obtain ⟨m, e, rfl, same⟩ := exists_finite found positive
  have far := ratio_le (e := e) narrow
  have pos := ratio_pos m e
  have value := same.trans (ratio_value m e).symm
  rw [ofSeconds?]
  generalize ratio m e = parts at far pos value
  obtain ⟨n, d⟩ := parts
  dsimp only at far pos value ⊢
  obtain ⟨k, found, close⟩ := exists_fractionMicros pos (Nat.mod_lt n pos)
  rw [found, Option.bind_some]
  refine ⟨⟨(n / d : Nat) * 1000000 + k⟩, ?_, ?_⟩
  · have whole : v = (n / d : Nat) + (n % d : Nat) / (d : ℚ) := by
      have positive : (0 : ℚ) < d := Nat.cast_pos.mpr pos
      rw [value, div_eq_iff positive.ne', add_mul, div_mul_cancel₀ _ positive.ne']
      exact_mod_cast (Nat.div_add_mod' n d).symm
    rw [whole]
    generalize n / d = w
    convert close using 2
    push_cast
    ring
  · have within := inRange_iff pos far close
    rw [value]
    by_cases early : (n : ℚ) / d < 253402300800
    · rw [if_pos early, if_pos (within.mpr early)]
    · rw [if_neg early, if_neg (mt within.mp early)]

end Time.Instant

end HostMonitor
