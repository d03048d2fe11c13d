import Mathlib.Tactic.Linarith
import Mathlib.Tactic.Ring
import Wireform.Binary64.Basic

/-!
Rounding to double precision.

All that is needed of a tie-breaking rule is where a result passes a whole number, and
`lt_roundHalfEven_iff` says that once. From it follow, for the 53 digits that are kept:

* `Binary64.nearestUnits_mono`: a greater fraction does not round to less.
* `Binary64.nearestUnits_of_representable`: what the format holds stays as it is.
* `Binary64.isFinite_ofDecimal_iff`: a decimal rounds out of the range exactly from the middle
  between the largest number and `2 ^ 1024` on.
-/

namespace Wireform

/-! ## Rounding to a whole number -/

theorem div_le_roundHalfEven (num den : Nat) : num / den ≤ roundHalfEven num den := by
  unfold roundHalfEven
  split <;> omega

/-- A fraction rounds past `k` if it lies beyond the middle between `k` and `k + 1`, or in the
middle where `k` is odd. -/
theorem lt_roundHalfEven_iff {num den k : Nat} (pos : 0 < den) :
    k < roundHalfEven num den ↔
      (2 * k + 1) * den < 2 * num ∨ (2 * k + 1) * den = 2 * num ∧ k % 2 = 1 := by
  have parts := Nat.div_add_mod num den
  have rest := Nat.mod_lt num pos
  unfold roundHalfEven
  generalize num / den = q at *
  generalize num % den = r at *
  subst parts
  have middle : (2 * k + 1) * den = 2 * (den * k) + den := by ring
  rcases Nat.lt_trichotomy k q with below | rfl | above
  · have step : den * k + den ≤ den * q := Nat.mul_le_mul_left den below
    split <;> omega
  · split <;> omega
  · have step : den * q + den ≤ den * k := Nat.mul_le_mul_left den above
    split <;> omega

theorem roundHalfEven_mono {a b c d : Nat} (posB : 0 < b) (posD : 0 < d) (le : a * d ≤ c * b) :
    roundHalfEven a b ≤ roundHalfEven c d := by
  by_contra greater
  rw [Nat.not_le] at greater
  generalize result : roundHalfEven c d = k at greater
  have notPast : ¬ k < roundHalfEven c d := by omega
  rw [lt_roundHalfEven_iff posD, not_or, Nat.not_lt] at notPast
  obtain ⟨atMost, notMiddle⟩ := notPast
  -- Both fractions are compared with `2 k + 1` over the product of the denominators.
  have scaled : 2 * c * b ≤ (2 * k + 1) * d * b := Nat.mul_le_mul_right b atMost
  rcases (lt_roundHalfEven_iff posB).1 greater with past | ⟨middle, odd⟩
  · have := Nat.mul_lt_mul_of_pos_right past posD
    nlinarith
  · have tie : (2 * k + 1) * d * b = 2 * c * b := by nlinarith
    exact notMiddle ⟨Nat.eq_of_mul_eq_mul_right posB tie, odd⟩

theorem roundHalfEven_mul (m : Nat) {den : Nat} (pos : 0 < den) :
    roundHalfEven (m * den) den = m := by
  rw [roundHalfEven, Nat.mul_mod_left, Nat.mul_div_cancel m pos, if_pos (.inl (by omega))]

namespace Binary64

/-! ## The digits that are kept -/

section Excess

variable {num den : Nat}

theorem div_lt_of_excess (num den : Nat) : num / den < 2 ^ (53 + excess num den) := by
  rcases Nat.eq_zero_or_pos (num / den) with zero | pos
  · rw [zero]
    exact Nat.two_pow_pos _
  · have digits : (num / den).log2 < 53 + excess num den := by
      unfold excess
      omega
    exact (Nat.log2_lt (by omega)).1 digits

theorem le_div_of_excess (more : 0 < excess num den) : 2 ^ (52 + excess num den) ≤ num / den := by
  have digits : 52 + excess num den ≤ (num / den).log2 := by
    unfold excess at more ⊢
    omega
  have nonzero : num / den ≠ 0 := by
    intro zero
    rw [excess, zero] at more
    exact absurd more (by decide)
  exact (Nat.le_log2 nonzero).1 digits

/-- Where digits are dropped, all 53 are used. -/
theorem le_significand (more : 0 < excess num den) : 2 ^ 52 ≤ significand num den := by
  have whole : 2 ^ 52 ≤ num / (den * 2 ^ excess num den) := by
    rw [← Nat.div_div_eq_div_mul, Nat.le_div_iff_mul_le (Nat.two_pow_pos _), ← Nat.pow_add]
    exact le_div_of_excess more
  exact whole.trans (div_le_roundHalfEven _ _)

theorem excess_mono {num' den' : Nat} (le : num / den ≤ num' / den') :
    excess num den ≤ excess num' den' := by
  by_contra greater
  have more : 0 < excess num den := by omega
  have low := le_div_of_excess more
  have high := div_lt_of_excess num' den'
  have powers : 2 ^ (53 + excess num' den') ≤ 2 ^ (52 + excess num den) :=
    Nat.pow_le_pow_right (by decide) (by omega)
  omega

theorem le_nearestUnits (more : 0 < excess num den) :
    2 ^ (52 + excess num den) ≤ nearestUnits num den := by
  rw [Nat.pow_add]
  exact Nat.mul_le_mul_right _ (le_significand more)

theorem nearestUnits_le (num den : Nat) : nearestUnits num den ≤ 2 ^ (53 + excess num den) := by
  rw [Nat.pow_add]
  exact Nat.mul_le_mul_right _ (significand_le num den)

end Excess

/-- A greater fraction does not round to less. -/
theorem nearestUnits_mono {a b c d : Nat} (posB : 0 < b) (posD : 0 < d) (le : a * d ≤ c * b) :
    nearestUnits a b ≤ nearestUnits c d := by
  have quotients : a / b ≤ c / d := by
    rw [Nat.le_div_iff_mul_le posD]
    have floor := Nat.div_mul_le_self a b
    by_contra greater
    rw [Nat.not_le] at greater
    have := Nat.mul_lt_mul_of_pos_right greater posB
    nlinarith
  rcases Nat.lt_or_eq_of_le (excess_mono quotients) with fewer | same
  · calc nearestUnits a b
        ≤ 2 ^ (53 + excess a b) := nearestUnits_le a b
      _ ≤ 2 ^ (52 + excess c d) := Nat.pow_le_pow_right (by decide) (by omega)
      _ ≤ nearestUnits c d := le_nearestUnits (by omega)
  · unfold nearestUnits significand
    rw [same]
    refine Nat.mul_le_mul_right _ (roundHalfEven_mono ?_ ?_ ?_)
    · exact Nat.mul_pos posB (Nat.two_pow_pos _)
    · exact Nat.mul_pos posD (Nat.two_pow_pos _)
    · rw [← Nat.mul_assoc, ← Nat.mul_assoc]
      exact Nat.mul_le_mul_right _ le

/-- What the format can hold is not changed by rounding. -/
theorem nearestUnits_of_representable {units den : Nat} (h : Representable units)
    (pos : 0 < den) : nearestUnits (units * den) den = units := by
  obtain ⟨-, m, split⟩ := h
  have dropped : excess (units * den) den = units.log2 - 52 := by
    rw [excess, Nat.mul_div_cancel units pos]
  rw [nearestUnits, significand, dropped]
  generalize Nat.pow 2 (units.log2 - 52) = grid at split ⊢
  rcases Nat.eq_zero_or_pos grid with zero | posGrid
  · rw [split, zero, Nat.zero_mul, Nat.mul_zero]
  · have same : units * den = m * (den * grid) := by
      rw [split]
      ring
    rw [same, roundHalfEven_mul m (Nat.mul_pos pos posGrid), split, Nat.mul_comm]

/-! ## Out of range -/

/-- A fraction rounds to less than a power of two if it is below the middle between that power and
the number in front of it. -/
theorem nearestUnits_lt_pow_iff {num den : Nat} (pos : 0 < den) (e : Nat) :
    nearestUnits num den < 2 ^ (54 + e) ↔ num < (2 ^ 54 - 1) * 2 ^ e * den := by
  rw [← Nat.div_lt_iff_lt_mul pos]
  have low := div_lt_of_excess num den
  have most := nearestUnits_le num den
  have power : 2 ^ (54 + e) = 2 ^ 54 * 2 ^ e := Nat.pow_add ..
  have half : 2 ^ (53 + e) = 2 ^ 53 * 2 ^ e := Nat.pow_add ..
  have posPower : 0 < 2 ^ e := Nat.two_pow_pos e
  rcases Nat.lt_trichotomy (excess num den) (e + 1) with fewer | same | more
  · have powers : 2 ^ (53 + excess num den) ≤ 2 ^ (53 + e) :=
      Nat.pow_le_pow_right (by decide) (by omega)
    exact iff_of_true (by omega) (by omega)
  · -- The power is the first number of the next size: below it the significand is not full.
    obtain ⟨last, full⟩ : ∃ last, last = 2 ^ 53 - 1 := ⟨_, rfl⟩
    have past : last < significand num den ↔ _ :=
      lt_roundHalfEven_iff (Nat.mul_pos pos (Nat.two_pow_pos _))
    have next : Nat.pow 2 (excess num den) = 2 * 2 ^ e := by
      rw [same, Nat.pow_eq, Nat.pow_succ']
    have middle : (2 * last + 1) * (den * (2 * 2 ^ e)) = 2 * ((2 * last + 1) * 2 ^ e * den) := by
      ring
    have range (s : Nat) : s * (2 * 2 ^ e) < 2 ^ 54 * 2 ^ e ↔ s < 2 ^ 53 := by
      rw [show 2 ^ 54 * 2 ^ e = 2 ^ 53 * (2 * 2 ^ e) by ring]
      exact Nat.mul_lt_mul_right (by omega)
    rw [next, middle] at past
    rw [show 2 ^ 54 - 1 = 2 * last + 1 by omega, Nat.div_lt_iff_lt_mul pos, power, nearestUnits,
      next, range]
    omega
  · have powers : 2 ^ (54 + e) ≤ 2 ^ (52 + excess num den) :=
      Nat.pow_le_pow_right (by decide) (by omega)
    have least : _ ≤ nearestUnits num den := le_nearestUnits (by omega)
    have high : _ ≤ num / den := le_div_of_excess (by omega)
    exact iff_of_false (by omega) (by omega)

/-- The middle between the largest number and `2 ^ 1024`. -/
def rangeEnd : Nat := Nat.pow 2 1024 - Nat.pow 2 970

-- Exponents are generalised here, so that no power of that size is computed.

theorem rangeEnd_eq : rangeEnd = (2 ^ 54 - 1) * 2 ^ 970 := by
  decide +kernel

theorem rangeEnd_pos : 0 < rangeEnd := by
  rw [rangeEnd_eq]
  generalize 970 = e
  exact Nat.mul_pos (by decide) (Nat.two_pow_pos e)

theorem rangeEnd_mul_one : rangeEnd * one = (2 ^ 54 - 1) * 2 ^ (unitPlaces + 970) := by
  unfold one
  generalize unitPlaces = places
  rw [rangeEnd_eq, Nat.pow_eq, Nat.pow_add, Nat.mul_assoc, Nat.mul_comm (2 ^ 970)]

theorem limit_eq : limit = 2 ^ (54 + (unitPlaces + 970)) := by
  unfold limit
  generalize unitPlaces = places
  rw [Nat.pow_eq, show places + 1024 = 54 + (places + 970) by omega]

theorem nearestUnits_lt_limit_iff {num den : Nat} (pos : 0 < den) :
    nearestUnits num den < limit ↔ num < rangeEnd * one * den := by
  rw [limit_eq, rangeEnd_mul_one]
  exact nearestUnits_lt_pow_iff pos _

theorem isFinite_nearest_iff {num den : Nat} (pos : 0 < den) (negative : Bool) :
    (nearest negative num den).isFinite = true ↔ num < rangeEnd * one * den := by
  rw [← nearestUnits_lt_limit_iff pos]
  unfold nearest
  split
  · next inside => exact iff_of_true rfl inside
  · next outside => exact iff_of_false Bool.false_ne_true outside

section Decimal

variable {coefficient : Nat} {exponent : Int}

theorem lt_pow_length_digits (n : Nat) : n < 10 ^ (Nat.toDigits 10 n).length :=
  (Nat.length_toDigits_le_iff (by decide) Nat.length_toDigits_pos).1 Nat.le.refl

theorem pow_length_digits_le {n : Nat} (pos : 0 < n) :
    10 ^ ((Nat.toDigits 10 n).length - 1) ≤ n := by
  rcases Nat.lt_or_ge 1 (Nat.toDigits 10 n).length with long | short
  · by_contra small
    have := (Nat.length_toDigits_le_iff (by decide) (by omega)).2 (Nat.lt_of_not_le small)
    omega
  · rwa [Nat.sub_eq_zero_of_le short]

/-- Far below one, a decimal is in the range. -/
theorem lt_rangeEnd_of_size (small : exponent + (Nat.toDigits 10 coefficient).length < -400) :
    coefficient * 10 ^ exponent.toNat < rangeEnd * 10 ^ (-exponent).toNat := by
  have bound := lt_pow_length_digits coefficient
  have powers : 10 ^ (Nat.toDigits 10 coefficient).length ≤ 10 ^ (-exponent).toNat :=
    Nat.pow_le_pow_right (by decide) (by omega)
  have least : 1 ≤ rangeEnd := rangeEnd_pos
  have whole : exponent.toNat = 0 := by omega
  rw [whole]
  nlinarith

theorem rangeEnd_le_pow {k : Nat} (great : 400 ≤ k) : rangeEnd ≤ 10 ^ k := by
  have room : 54 + 970 ≤ 3 * k := by omega
  rw [rangeEnd_eq]
  generalize 970 = e at room ⊢
  calc (2 ^ 54 - 1) * 2 ^ e
      ≤ 2 ^ 54 * 2 ^ e := Nat.mul_le_mul_right _ (Nat.sub_le _ _)
    _ = 2 ^ (54 + e) := (Nat.pow_add 2 54 e).symm
    _ ≤ 2 ^ (3 * k) := Nat.pow_le_pow_right (by decide) room
    _ = 8 ^ k := Nat.pow_mul 2 3 k
    _ ≤ 10 ^ k := Nat.pow_le_pow_left (by decide) k

/-- With more than 400 digits in front of its point, a decimal is out of the range. -/
theorem rangeEnd_le_of_size (pos : 0 < coefficient)
    (great : 400 < exponent + (Nat.toDigits 10 coefficient).length) :
    rangeEnd * 10 ^ (-exponent).toNat ≤ coefficient * 10 ^ exponent.toNat := by
  have least := pow_length_digits_le pos
  generalize (Nat.toDigits 10 coefficient).length = length at *
  calc rangeEnd * 10 ^ (-exponent).toNat
      ≤ 10 ^ (length - 1 + exponent.toNat - (-exponent).toNat) * 10 ^ (-exponent).toNat :=
        Nat.mul_le_mul_right _ (rangeEnd_le_pow (by omega))
    _ = 10 ^ (length - 1) * 10 ^ exponent.toNat := by
        rw [← Nat.pow_add, ← Nat.pow_add, Nat.sub_add_cancel (by omega)]
    _ ≤ coefficient * 10 ^ exponent.toNat := Nat.mul_le_mul_right _ least

/-- A decimal is taken as a number of the range exactly if it lies in front of the end of the
range. -/
theorem isFinite_ofDecimal_iff (negative : Bool) :
    (ofDecimal negative coefficient exponent).isFinite = true ↔
      coefficient * Nat.pow 10 exponent.toNat < rangeEnd * Nat.pow 10 (-exponent).toNat := by
  have positive : 0 < Nat.pow 10 (-exponent).toNat := Nat.pow_pos (by decide)
  simp only [ofDecimal]
  split
  · next tiny =>
    refine iff_of_true rfl ?_
    rcases tiny with rfl | small
    · rw [Nat.zero_mul]
      exact Nat.mul_pos rangeEnd_pos positive
    · exact lt_rangeEnd_of_size small
  · next notTiny =>
    split
    · next great =>
      have outside := rangeEnd_le_of_size (by omega) great
      exact iff_of_false Bool.false_ne_true (Nat.not_lt.2 outside)
    · rw [isFinite_nearest_iff positive, Nat.mul_right_comm rangeEnd]
      exact Nat.mul_lt_mul_right one_pos

theorem ofDecimal_ne_nan {negative : Bool} : ofDecimal negative coefficient exponent ≠ .nan := by
  simp only [ofDecimal]
  split
  · nofun
  · split
    · nofun
    · unfold nearest
      split <;> nofun

end Decimal

end Binary64

end Wireform
