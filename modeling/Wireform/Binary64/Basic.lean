/-!
Double-precision numbers, held exactly. A finite number is a sign and a magnitude; the magnitude
counts units of `2 ^ -1074`, the smallest step of the format, so that every finite number is a
whole count and comparing or adding magnitudes is arithmetic on `Nat`. That the count fits the
format (53 binary digits, below `2 ^ 1024`) is part of the type.

* `Binary64.nearest`: the number closest to a fraction, a tie going to the even neighbour.
* `Binary64.add`, `Binary64.mul`: the exact result, rounded once.
-/

namespace Wireform

/-- Binary places after the point: a unit is one in the last of them. -/
def Binary64.unitPlaces : Nat := 1074

/-- Units in the number one. -/
def Binary64.one : Nat := Nat.pow 2 unitPlaces

/-- The least count of units beyond the range of the format, `2 ^ 1024` in value. -/
def Binary64.limit : Nat := Nat.pow 2 (unitPlaces + 1024)

/-- The least significand of more than 53 binary digits. -/
def Binary64.fullSignificand : Nat := 9007199254740992

/-- Can double precision hold a magnitude of so many units? -/
def Representable (units : Nat) : Prop :=
  units < Binary64.limit ∧ Nat.pow 2 (units.log2 - 52) ∣ units

instance (units : Nat) : Decidable (Representable units) :=
  inferInstanceAs (Decidable (_ ∧ _))

/-- A double-precision number. Magnitudes are counts of units of `2 ^ -1074`. -/
inductive Binary64 where
  | nan
  | infinite (negative : Bool)
  | finite (negative : Bool) (units : Nat) (representable : Representable units)
  deriving DecidableEq

/-- The whole number closest to `num / den`; a half goes to the even neighbour. -/
def roundHalfEven (num den : Nat) : Nat :=
  if 2 * (num % den) < den ∨ (2 * (num % den) = den ∧ num / den % 2 = 0) then num / den
  else num / den + 1

theorem roundHalfEven_le (num den : Nat) : roundHalfEven num den ≤ num / den + 1 := by
  unfold roundHalfEven
  split <;> omega

namespace Binary64

/-- A count of at most 53 binary digits, shifted, is representable as long as it is in range. -/
theorem representable_shift {m e : Nat} (hm : m ≤ fullSignificand)
    (h : m * Nat.pow 2 e < limit) : Representable (m * Nat.pow 2 e) := by
  refine ⟨h, ?_⟩
  change 2 ^ ((m * 2 ^ e).log2 - 52) ∣ m * 2 ^ e
  replace hm : m ≤ 2 ^ 53 := hm
  rcases Nat.eq_zero_or_pos m with rfl | hpos
  · simp
  have hne : m * 2 ^ e ≠ 0 := Nat.ne_of_gt (Nat.mul_pos hpos (Nat.two_pow_pos e))
  rcases Nat.lt_or_ge m (2 ^ 53) with hlt | hge
  · have hlog : (m * 2 ^ e).log2 < 53 + e := by
      rw [Nat.log2_lt hne, Nat.pow_add]
      exact Nat.mul_lt_mul_of_pos_right hlt (Nat.two_pow_pos e)
    exact Nat.dvd_trans (Nat.pow_dvd_pow 2 (by omega)) (Nat.dvd_mul_left _ _)
  · obtain rfl : m = 2 ^ 53 := Nat.le_antisymm hm hge
    rw [← Nat.pow_add, Nat.log2_two_pow]
    exact Nat.pow_dvd_pow 2 (by omega)

/-- How many binary digits a quotient of units has beyond the 53 that are kept. -/
def excess (num den : Nat) : Nat :=
  (num / den).log2 - 52

/-- The 53-digit significand closest to `num / den` units. -/
def significand (num den : Nat) : Nat :=
  roundHalfEven num (den * Nat.pow 2 (excess num den))

theorem significand_le (num den : Nat) : significand num den ≤ fullSignificand := by
  change roundHalfEven num (den * 2 ^ excess num den) ≤ 2 ^ 53
  refine Nat.le_trans (roundHalfEven_le _ _) ?_
  have hlt : num / den < 2 ^ (53 + excess num den) := by
    rcases Nat.eq_zero_or_pos (num / den) with h0 | hpos
    · rw [h0]; exact Nat.two_pow_pos _
    · have := (Nat.log2_lt (n := num / den) (k := 53 + excess num den) (by omega)).1
        (by unfold excess; omega)
      exact this
  have : num / den / 2 ^ excess num den < 2 ^ 53 := by
    rw [Nat.div_lt_iff_lt_mul (Nat.two_pow_pos _), ← Nat.pow_add]
    exact hlt
  rw [← Nat.div_div_eq_div_mul]
  omega

/-- The count of units that `num / den` units round to. -/
def nearestUnits (num den : Nat) : Nat :=
  significand num den * Nat.pow 2 (excess num den)

/-- The number closest to `num / den` units, with the given sign; a tie goes to the even
significand, and what rounds past the largest number becomes infinite. -/
def nearest (negative : Bool) (num den : Nat) : Binary64 :=
  if h : nearestUnits num den < limit then
    .finite negative (nearestUnits num den) (representable_shift (significand_le num den) h)
  else .infinite negative

theorem one_pos : 0 < one := by
  unfold one
  generalize unitPlaces = e
  exact Nat.two_pow_pos e

theorem limit_pos : 0 < limit := by
  unfold limit
  generalize unitPlaces + 1024 = e
  exact Nat.two_pow_pos e

theorem representable_zero : Representable 0 :=
  ⟨limit_pos, Nat.dvd_zero _⟩

/-- Positive zero. -/
def zero : Binary64 :=
  .finite false 0 representable_zero

instance : Inhabited Binary64 := ⟨zero⟩

/-- The number closest to a whole number. -/
def ofInt (n : Int) : Binary64 :=
  nearest (n < 0) (n.natAbs * one) 1

/-- The number closest to `coefficient * 10 ^ exponent`, with the given sign. Powers of ten far
outside the range are answered without being computed. -/
def ofDecimal (negative : Bool) (coefficient : Nat) (exponent : Int) : Binary64 :=
  let size := exponent + (Nat.toDigits 10 coefficient).length
  if coefficient = 0 ∨ size < -400 then .finite negative 0 representable_zero
  else if 400 < size then .infinite negative
  else nearest negative (coefficient * Nat.pow 10 exponent.toNat * one)
    (Nat.pow 10 (-exponent).toNat)

/-- Is the number neither infinite nor undefined? -/
def isFinite : Binary64 → Bool
  | .finite .. => true
  | _ => false

/-- Is the number greater than zero? -/
def isPositive : Binary64 → Bool
  | .nan => false
  | .infinite negative => !negative
  | .finite negative units _ => !negative && units != 0

/-- Is the number zero or less? An undefined number is neither this nor positive. -/
def isAtMostZero : Binary64 → Bool
  | .nan => false
  | .infinite negative => negative
  | .finite negative units _ => negative || units == 0

/-- Is the number zero, of either sign? -/
def isZero : Binary64 → Bool
  | .finite _ units _ => units == 0
  | _ => false

/-- The signed count of units of a finite number. -/
def signed (negative : Bool) (units : Nat) : Int :=
  if negative then -units else units

/-- Equality of values: an undefined number differs from all, and the two zeros are equal. -/
def sameValue : Binary64 → Binary64 → Bool
  | .infinite a, .infinite b => a == b
  | .finite a m _, .finite b n _ => signed a m == signed b n
  | _, _ => false

/-- Is the number finite and without a fraction? -/
def isWhole : Binary64 → Bool
  | .finite _ units _ => units % one == 0
  | _ => false

/-- The number with its sign turned. -/
def neg : Binary64 → Binary64
  | .nan => .nan
  | .infinite negative => .infinite !negative
  | .finite negative units h => .finite (!negative) units h

/-- The same number, save that negative zero becomes zero. -/
def unsignedZero (x : Binary64) : Binary64 :=
  if x.isZero then zero else x

/-- The sum, rounded once. -/
def add : Binary64 → Binary64 → Binary64
  | .finite a m _, .finite b n _ =>
    let sum := signed a m + signed b n
    nearest (sum < 0 || (sum == 0 && a && b)) sum.natAbs 1
  | .infinite a, .infinite b => if a == b then .infinite a else .nan
  | .infinite a, .finite .. => .infinite a
  | .finite .., .infinite b => .infinite b
  | _, _ => .nan

/-- The product, rounded once. -/
def mul : Binary64 → Binary64 → Binary64
  | .finite a m _, .finite b n _ => nearest (a != b) (m * n) one
  | .infinite a, .infinite b => .infinite (a != b)
  | .infinite a, .finite b n _ => if n = 0 then .nan else .infinite (a != b)
  | .finite a m _, .infinite b => if m = 0 then .nan else .infinite (a != b)
  | _, _ => .nan

end Binary64

end Wireform
