import Mathlib.Algebra.Order.Group.Unbundled.Abs
import Wireform.Proofs.Binary64.Places

/-!
The value of a number, and what fixed places keep of it.

A finite number is a fraction, `value`. The decimal that is written with fixed places has the shape
`IsFixed`, and it stands for a fraction near that value: half of the last place is the most that
they are apart (`abs_decimalValue_fixed_sub_le`). A greater number is never written as a smaller
decimal (`decimalValue_fixed_mono`), whatever the signs are.
-/

namespace Wireform

/-! ## How far rounding moves a fraction -/

section Rounding

variable {num den : Nat}

theorem two_mul_roundHalfEven_le (pos : 0 < den) :
    2 * (roundHalfEven num den * den) ≤ 2 * num + den := by
  rcases Nat.eq_zero_or_pos (roundHalfEven num den) with none | some
  · rw [none]
    omega
  · obtain ⟨k, next⟩ : ∃ k, roundHalfEven num den = k + 1 := ⟨_, (Nat.sub_add_cancel some).symm⟩
    have past : (2 * k + 1) * den ≤ 2 * num := by
      have below : k < roundHalfEven num den := by omega
      rcases (lt_roundHalfEven_iff pos).1 below with beyond | middle
      · exact Nat.le_of_lt beyond
      · exact Nat.le_of_eq middle.1
    rw [next]
    linarith

theorem le_two_mul_roundHalfEven (pos : 0 < den) :
    2 * num ≤ 2 * (roundHalfEven num den * den) + den := by
  have notPast : ¬ roundHalfEven num den < roundHalfEven num den := Nat.lt_irrefl _
  rw [lt_roundHalfEven_iff pos, not_or, Nat.not_lt] at notPast
  linarith [notPast.1]

/-- A fraction and what it is rounded to are at most half apart. -/
theorem abs_roundHalfEven_sub_le (num : Nat) (pos : 0 < den) :
    |(roundHalfEven num den : ℚ) - num / den| ≤ 1 / 2 := by
  have above : (2 * (roundHalfEven num den * den) : ℚ) ≤ 2 * num + den := by
    exact_mod_cast two_mul_roundHalfEven_le pos
  have below : (2 * num : ℚ) ≤ 2 * (roundHalfEven num den * den) + den := by
    exact_mod_cast le_two_mul_roundHalfEven pos
  have posDen : (0 : ℚ) < den := by exact_mod_cast pos
  have scaled : (roundHalfEven num den : ℚ) - num / den =
      (roundHalfEven num den * den - num) / den := by
    rw [sub_div, mul_div_cancel_right₀ _ posDen.ne']
  rw [scaled, abs_le, le_div_iff₀ posDen, div_le_iff₀ posDen]
  constructor <;> linarith

end Rounding

namespace Binary64

/-! ## The shape of a decimal with fixed places -/

/-- A decimal with so many places: a minus sign or none, digits that start with a zero only where it
is the only one, a point, and the places. -/
inductive IsFixed (places : Nat) : List Char → Prop
  | decimal (negative : Bool) {ds part : List Char} (row : IsDigitRow ds)
      (leading : ds.head? = some '0' → ds = ['0']) (digits : ∀ c ∈ part, c.isDigit = true)
      (length : part.length = places) :
    IsFixed places (signMark negative ++ (ds ++ '.' :: part))

/-- Digits stand for less than the power of ten with as many zeros. -/
theorem ofDigitChars_lt {ds : List Char} (all : ∀ c ∈ ds, c.isDigit = true) :
    Nat.ofDigitChars 10 ds 0 < 10 ^ ds.length := by
  induction ds with
  | nil => exact Nat.one_pos
  | cons c ds ih =>
      rw [List.forall_mem_cons] at all
      have digit : c.toNat - '0'.toNat ≤ 9 := by
        have bounds : 48 ≤ c.toNat ∧ c.toNat ≤ 57 := Char.isDigit_iff_toNat.1 all.1
        change c.toNat - 48 ≤ 9
        omega
      have least := ih all.2
      rw [Nat.ofDigitChars_cons, Nat.ofDigitChars_eq_ofDigitChars_zero, List.length_cons,
        Nat.pow_succ]
      nlinarith

/-- No digits of a number start with a zero, save those of zero itself. -/
theorem digits_of_head?_zero {n : Nat} (zero : (digits n).head? = some '0') : digits n = ['0'] := by
  obtain ⟨rest, split⟩ := List.head?_eq_some_iff.1 zero
  have value : Nat.ofDigitChars 10 (digits n) 0 = n := Nat.ofDigitChars_ten_toDigits
  have all : ∀ c ∈ rest, c.isDigit = true :=
    fun c mem => (isDigitRow_digits n).all c (by rw [split]; exact List.mem_cons_of_mem _ mem)
  rw [split, Nat.ofDigitChars_cons, Nat.mul_zero] at value
  have small : n < 10 ^ rest.length := by
    rw [← value]
    exact ofDigitChars_lt all
  cases rest with
  | nil => exact split
  | cons c rest =>
      have short := (Nat.length_toDigits_le_iff (by decide) (Nat.succ_pos _)).2 small
      change (digits n).length ≤ _ at short
      rw [split] at short
      exact absurd short (Nat.not_succ_le_self _)

theorem isFixed_pointed (negative : Bool) {places : Nat} (pos : 0 < places) (n : Nat) :
    IsFixed places (signMark negative ++ pointed places n) := by
  have length : (paddedDigits places (n % Nat.pow 10 places)).length = places :=
    length_paddedDigits pos (Nat.mod_lt _ (Nat.pow_pos (by decide)))
  rw [pointed, if_neg (Nat.ne_of_gt pos)]
  exact .decimal negative (isDigitRow_digits _) digits_of_head?_zero
    (isDigitRow_paddedDigits places _).all length

variable {places : Nat} {x y : Binary64}

theorem isFixed_fixed (pos : 0 < places) (finite : x.isFinite = true) :
    IsFixed places (x.fixed places).toList := by
  obtain ⟨negative, units, h, rfl⟩ := exists_of_isFinite finite
  rw [fixed, String.toList_ofList]
  exact isFixed_pointed negative pos _

/-! ## The decimal and the value -/

/-- The value of a finite number. -/
def value : Binary64 → ℚ
  | .finite negative units _ => signed negative units / one
  | _ => 0

theorem value_unsignedZero (x : Binary64) : x.unsignedZero.value = x.value := by
  unfold unsignedZero
  split
  · next isZero =>
    cases x with
    | finite negative units h =>
        obtain rfl : units = 0 := by simpa [Binary64.isZero] using isZero
        have noSign : signed negative 0 = signed false 0 := by cases negative <;> rfl
        change ((signed false 0 : ℤ) : ℚ) / one = (signed negative 0 : ℤ) / one
        rw [noSign]
    | nan => cases isZero
    | infinite => cases isZero
  · rfl

/-- The sign applies to the decimal as to the number. -/
theorem decimalValue_fixed_eq (negative : Bool) {units : Nat} (h : Representable units) :
    decimalValue ((finite negative units h).fixed places).toList =
      signed negative (roundHalfEven (units * Nat.pow 10 places) one) / 10 ^ places := by
  rw [decimalValue_fixed]
  generalize roundHalfEven (units * Nat.pow 10 places) one = n
  cases negative with
  | false => rfl
  | true => simp [signed, neg_div]

/-- With fixed places, a number is at most half of the last place away from what is written. -/
theorem abs_decimalValue_fixed_sub_le (finite : x.isFinite = true) :
    |decimalValue (x.fixed places).toList - x.value| ≤ 1 / (2 * 10 ^ places) := by
  obtain ⟨negative, units, h, rfl⟩ := exists_of_isFinite finite
  have power : (0 : ℚ) < 10 ^ places := by positivity
  have near := abs_roundHalfEven_sub_le (units * Nat.pow 10 places) one_pos
  have scaled : ((units * Nat.pow 10 places : Nat) : ℚ) / one = units / one * 10 ^ places := by
    push_cast [Nat.pow_eq]
    ring
  rw [scaled] at near
  rw [decimalValue_fixed_eq, value]
  generalize roundHalfEven (units * Nat.pow 10 places) one = n at near ⊢
  have magnitude : |(n : ℚ) / 10 ^ places - units / one| ≤ 1 / (2 * 10 ^ places) := by
    have place : (n : ℚ) / 10 ^ places - units / one =
        (n - units / one * 10 ^ places) / 10 ^ places := by
      rw [sub_div, mul_div_cancel_right₀ _ power.ne']
    rw [place, abs_div, abs_of_pos power, ← div_div]
    exact div_le_div_of_nonneg_right near power.le
  cases negative with
  | false => exact magnitude
  | true =>
      have turned : ((signed true n : ℤ) : ℚ) / 10 ^ places - (signed true units : ℤ) / one =
          -(n / 10 ^ places - units / one) := by
        simp only [signed, if_true]
        push_cast
        ring
      rw [turned, abs_neg]
      exact magnitude

theorem value_le_iff {a b : Bool} {m n : Nat} {h : Representable m} {h' : Representable n} :
    (finite a m h).value ≤ (finite b n h').value ↔ signed a m ≤ signed b n := by
  have unit : (0 : ℚ) < one := by exact_mod_cast one_pos
  rw [value, value, div_le_div_iff_of_pos_right unit]
  exact Int.cast_le

/-- Rounding magnitudes keeps the order of signed counts. -/
theorem signed_roundHalfEven_mono {a b : Bool} {m n scale den : Nat} (pos : 0 < den)
    (le : signed a m ≤ signed b n) :
    signed a (roundHalfEven (m * scale) den) ≤ signed b (roundHalfEven (n * scale) den) := by
  have mono {i j : Nat} (small : i ≤ j) :
      roundHalfEven (i * scale) den ≤ roundHalfEven (j * scale) den :=
    roundHalfEven_mono pos pos (Nat.mul_le_mul_right _ (Nat.mul_le_mul_right _ small))
  cases a <;> cases b <;> simp only [signed, if_true, Bool.false_eq_true, if_false] at le ⊢
  · have := mono (i := m) (j := n) (by omega)
    omega
  · -- Here both are zero.
    obtain ⟨rfl, rfl⟩ : m = 0 ∧ n = 0 := by omega
    have none : roundHalfEven (0 * scale) den = 0 := by
      rw [roundHalfEven_eq_zero_iff pos]
      omega
    omega
  · omega
  · have := mono (i := n) (j := m) (by omega)
    omega

/-- A greater number is not written as less. -/
theorem decimalValue_fixed_mono (finite : x.isFinite = true) (finite' : y.isFinite = true)
    (le : x.value ≤ y.value) :
    decimalValue (x.fixed places).toList ≤ decimalValue (y.fixed places).toList := by
  obtain ⟨a, m, h, rfl⟩ := exists_of_isFinite finite
  obtain ⟨b, n, h', rfl⟩ := exists_of_isFinite finite'
  rw [decimalValue_fixed_eq, decimalValue_fixed_eq]
  have power : (0 : ℚ) < 10 ^ places := by positivity
  rw [div_le_div_iff_of_pos_right power]
  exact Int.cast_le.2 (signed_roundHalfEven_mono one_pos (value_le_iff.1 le))

end Binary64

end Wireform
