import Wireform.Binary64.Digits
import Wireform.Proofs.Binary64.Rounding

/-!
The shortest digits of a number.

The search goes through decimals counted in units of `10 ^ -1074`. Whatever grid it stops on, the
decimal there reads back as the number (`readsBack_shortest`). Rounding is monotone, so a decimal
that reads back and the number lie on the same side of a power of ten, unless a number closer to the
power comes between. That gives the place of the point:

* `le_point_iff`: the first digit is among the first four places exactly from a ten-thousandth on.
* `point_lt_of_fraction`: a number with a fraction has at most sixteen digits in front of the point.
-/

namespace Wireform

namespace Binary64

/-! ## Reading back -/

theorem readsBack_iff {units decimal : Nat} : readsBack units decimal = true ↔
    nearestUnits (decimal * one) (Nat.pow 10 unitPlaces) = units := by
  unfold readsBack
  exact beq_iff_eq

theorem pow_unitPlaces_pos : 0 < Nat.pow 10 unitPlaces := by
  generalize unitPlaces = places
  exact Nat.pow_pos (by decide)

theorem expansion_mul_one (units : Nat) :
    expansion units * one = units * Nat.pow 10 unitPlaces := by
  unfold expansion one
  generalize unitPlaces = places
  rw [Nat.pow_eq, Nat.pow_eq, Nat.pow_eq, Nat.mul_assoc, ← Nat.mul_pow]

/-- The full expansion of a number reads back. -/
theorem readsBack_expansion {units : Nat} (h : Representable units) :
    readsBack units (expansion units) = true := by
  rw [readsBack_iff, expansion_mul_one]
  exact nearestUnits_of_representable h pow_unitPlaces_pos

theorem readsBack_of_onGrid? {units grid c : Nat} (found : onGrid? units grid = some c) :
    readsBack units (c * grid) = true := by
  simp only [onGrid?] at found
  split at found
  · next low =>
    cases found
    rw [Bool.and_eq_true] at low
    exact low.1
  · split at found
    · next high =>
      cases found
      exact high
    · cases found

/-- On the grid where the search stops, the decimal reads back. -/
theorem readsBack_of_decimalOn? {units j : Nat} {d : Decimal}
    (found : decimalOn? units j = some d) :
    d.exponent = (j : Int) - unitPlaces ∧ readsBack units (d.coefficient * 10 ^ j) = true := by
  simp only [decimalOn?] at found
  split at found
  · cases found
  · obtain ⟨c, onGrid, rfl⟩ := Option.map_eq_some_iff.1 found
    exact ⟨rfl, readsBack_of_onGrid? onGrid⟩

/-- The shortest decimal reads back. -/
theorem readsBack_shortest {units : Nat} (h : Representable units) :
    ∃ j : Nat, (shortest units).exponent = (j : Int) - unitPlaces ∧
      readsBack units ((shortest units).coefficient * 10 ^ j) = true := by
  simp only [shortest]
  cases found : List.findSome? (decimalOn? units) _ with
  | some d =>
      obtain ⟨j, -, onGrid⟩ := List.exists_of_findSome?_eq_some found
      exact ⟨j, readsBack_of_decimalOn? onGrid⟩
  | none =>
      refine ⟨0, (Int.zero_sub _).symm, ?_⟩
      rw [Option.getD_none, Nat.pow_zero, Nat.mul_one]
      exact readsBack_expansion h

section Order

variable {units decimal num den : Nat}

/-- What a decimal that reads back does not fall short of, the number does not fall short of either,
once it is rounded. -/
theorem nearestUnits_le_of_readsBack (reads : readsBack units decimal = true) (pos : 0 < den)
    (le : num * Nat.pow 10 unitPlaces ≤ decimal * one * den) : nearestUnits num den ≤ units := by
  rw [readsBack_iff] at reads
  rw [← reads]
  exact nearestUnits_mono pos pow_unitPlaces_pos le

theorem le_nearestUnits_of_readsBack (reads : readsBack units decimal = true) (pos : 0 < den)
    (le : decimal * one * den ≤ num * Nat.pow 10 unitPlaces) : units ≤ nearestUnits num den := by
  rw [readsBack_iff] at reads
  rw [← reads]
  exact nearestUnits_mono pow_unitPlaces_pos pos le

theorem pos_of_readsBack (reads : readsBack units decimal = true) (nonzero : units ≠ 0) :
    0 < decimal := by
  rcases Nat.eq_zero_or_pos decimal with rfl | pos
  · have below : units ≤ nearestUnits 0 1 :=
      le_nearestUnits_of_readsBack reads Nat.one_pos (by simp)
    have none : nearestUnits 0 1 = 0 := by decide
    omega
  · exact pos

end Order

/-! ## The place of the point -/

theorem pow_le_mul_pow_iff {c j k : Nat} (pos : 0 < c) :
    10 ^ k ≤ c * 10 ^ j ↔ k < j + (digits c).length := by
  have low : 10 ^ ((digits c).length - 1) ≤ c := pow_length_digits_le pos
  have high : c < 10 ^ (digits c).length := lt_pow_length_digits c
  have long : 0 < (digits c).length := Nat.length_toDigits_pos
  constructor
  · intro le
    by_contra short
    have powers : 10 ^ ((digits c).length + j) ≤ 10 ^ k :=
      Nat.pow_le_pow_right (by decide) (by omega)
    have less : c * 10 ^ j < 10 ^ (digits c).length * 10 ^ j :=
      Nat.mul_lt_mul_of_pos_right high (Nat.pow_pos (by decide))
    rw [← Nat.pow_add] at less
    omega
  · intro short
    calc 10 ^ k
        ≤ 10 ^ ((digits c).length - 1 + j) := Nat.pow_le_pow_right (by decide) (by omega)
      _ = 10 ^ ((digits c).length - 1) * 10 ^ j := Nat.pow_add ..
      _ ≤ c * 10 ^ j := Nat.mul_le_mul_right _ low

theorem ne_zero_of_fraction {units : Nat} (fraction : units % one ≠ 0) : units ≠ 0 := by
  rintro rfl
  exact fraction (Nat.zero_mod _)

/-- Numbers from `2 ^ 53` on have no fraction. -/
theorem mod_one_of_le {units : Nat} (h : Representable units) (great : 2 ^ 53 * one ≤ units) :
    units % one = 0 := by
  have pos := one_pos
  have wide : one ∣ Nat.pow 2 (units.log2 - 52) := by
    unfold one at *
    generalize unitPlaces = places at *
    refine Nat.pow_dvd_pow 2 ?_
    have log : 53 + places ≤ units.log2 := by
      rw [Nat.le_log2 (by omega), Nat.pow_add]
      exact great
    omega
  exact Nat.mod_eq_zero_of_dvd (wide.trans h.2)

/-- Where the point stands in the shortest digits of a number, counted from their left end. -/
def point (units : Nat) : Int :=
  (shortest units).exponent + (digits (shortest units).coefficient).length

theorem coefficient_shortest_pos {units : Nat} (h : Representable units) (nonzero : units ≠ 0) :
    0 < (shortest units).coefficient := by
  obtain ⟨j, -, reads⟩ := readsBack_shortest h
  exact Nat.pos_of_mul_pos_right (pos_of_readsBack reads nonzero)

/-- A decimal that reads back and shows the place of the point: its first digit is worth a power of
ten or more exactly if the decimal is. -/
theorem exists_readsBack_point {units : Nat} (h : Representable units) (nonzero : units ≠ 0) :
    ∃ decimal, readsBack units decimal = true ∧
      (∀ s : Nat, -(s : Int) ≤ point units - 1 ↔
        Nat.pow 10 unitPlaces ≤ decimal * Nat.pow 10 s) ∧
      ∀ s : Nat, (s : Int) ≤ point units - 1 ↔
        Nat.pow 10 s * Nat.pow 10 unitPlaces ≤ decimal := by
  obtain ⟨j, exponent, reads⟩ := readsBack_shortest h
  have pos := coefficient_shortest_pos h nonzero
  refine ⟨_, reads, fun s => ?_, fun s => ?_⟩
  · unfold point
    rw [exponent]
    generalize unitPlaces = places
    rw [Nat.pow_eq, Nat.pow_eq, Nat.mul_assoc, ← Nat.pow_add, pow_le_mul_pow_iff pos]
    omega
  · unfold point
    rw [exponent]
    generalize unitPlaces = places
    rw [Nat.pow_eq, Nat.pow_eq, ← Nat.pow_add, pow_le_mul_pow_iff pos]
    omega

/-- The number closest to a ten-thousandth. It lies above, and no number lies between the two. -/
def tenThousandth : Nat := nearestUnits one 10000

theorem one_le_tenThousandth : one ≤ tenThousandth * 10000 := by
  decide +kernel

theorem point_tenThousandth : point tenThousandth = -3 := by
  decide +kernel

theorem tenThousandth_le {units : Nat} (h : Representable units) (le : one ≤ units * 10000) :
    tenThousandth ≤ units := by
  have rounded : nearestUnits (units * 10000) 10000 = units :=
    nearestUnits_of_representable h (by decide)
  rw [← rounded]
  exact nearestUnits_mono (by decide) (by decide) (Nat.mul_le_mul_right _ le)

/-- The first digit stands at most four places behind the point exactly if the number is at least a
ten-thousandth. -/
theorem le_point_iff {units : Nat} (h : Representable units) (nonzero : units ≠ 0) :
    -4 ≤ point units - 1 ↔ one ≤ units * 10000 := by
  obtain ⟨decimal, reads, small, -⟩ := exists_readsBack_point h nonzero
  have scaled : decimal * one * 10000 = one * (decimal * 10000) := by ring
  constructor
  · intro le
    have least : tenThousandth ≤ units := by
      refine nearestUnits_le_of_readsBack reads (by decide) ?_
      rw [scaled]
      exact Nat.mul_le_mul_left one ((small 4).1 le)
    exact one_le_tenThousandth.trans (Nat.mul_le_mul_right _ least)
  · intro le
    by_contra less
    -- The decimal lies below a ten-thousandth, so the number does not lie above the closest one.
    have most : units ≤ tenThousandth := by
      refine le_nearestUnits_of_readsBack reads (by decide) ?_
      rw [scaled]
      exact Nat.mul_le_mul_left one (Nat.le_of_not_le fun more => less ((small 4).2 more))
    have same : units = tenThousandth := Nat.le_antisymm most (tenThousandth_le h le)
    rw [same, point_tenThousandth] at less
    exact less (by decide)

/-- The digits in front of the point of a number with a fraction are at most sixteen. -/
theorem point_lt_of_fraction {units : Nat} (h : Representable units) (fraction : units % one ≠ 0) :
    point units - 1 < 16 := by
  obtain ⟨decimal, reads, -, great⟩ := exists_readsBack_point h (ne_zero_of_fraction fraction)
  by_contra more
  have held : Representable (10 ^ 16 * one) := by decide +kernel
  have rounded := nearestUnits_of_representable held Nat.one_pos
  have whole := (great 16).1 (Int.not_lt.1 more)
  have least : 10 ^ 16 * one ≤ units := by
    rw [← rounded]
    refine nearestUnits_le_of_readsBack reads Nat.one_pos ?_
    have scaled := Nat.mul_le_mul_right one whole
    generalize one = unit at scaled ⊢
    generalize Nat.pow 10 unitPlaces = scale at scaled ⊢
    rw [Nat.pow_eq] at scaled
    nlinarith
  refine fraction (mod_one_of_le h (Nat.le_trans (Nat.mul_le_mul_right one ?_) least))
  decide

end Binary64

end Wireform
