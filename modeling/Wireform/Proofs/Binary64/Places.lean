import Mathlib.Algebra.Order.Field.Basic
import Mathlib.Algebra.Order.Field.Rat
import Wireform.Proofs.Binary64.Plain

/-!
What a text with fixed places stands for.

`decimalValue` reads a decimal text on its own: the digits make a whole number, and each place
behind the point divides it by ten. A number written with fixed places stands for the multiple of
the last place that it rounds to (`decimalValue_fixed`). So only zeros are left of a number that is
at most half of the last place away from zero, but its sign stays.

* `decimalValue_fixed_pos_iff`: when a text stands for something positive.
* `fixed_unsignedZero_eq_iff`: when it is a zero with a sign.
-/

namespace Wireform

theorem roundHalfEven_eq_zero_iff {num den : Nat} (pos : 0 < den) :
    roundHalfEven num den = 0 ↔ 2 * num ≤ den := by
  have past : 0 < roundHalfEven num den ↔ _ := lt_roundHalfEven_iff pos
  omega

namespace Binary64

/-- The number that digits stand for that may have a point between them. -/
def magnitudeValue (text : List Char) : ℚ :=
  let whole := text.takeWhile (· != '.')
  let part := (text.dropWhile (· != '.')).drop 1
  (Nat.ofDigitChars 10 (whole ++ part) 0 : ℚ) / 10 ^ part.length

/-- The number that a decimal text stands for. -/
def decimalValue : List Char → ℚ
  | '-' :: text => -magnitudeValue text
  | text => magnitudeValue text

/-! ## Reading what was written -/

theorem ofDigitChars_paddedDigits (width n init : Nat) :
    Nat.ofDigitChars 10 (paddedDigits width n) init =
      10 ^ (paddedDigits width n).length * init + n := by
  have value : Nat.ofDigitChars 10 (digits n) 0 = n := Nat.ofDigitChars_ten_toDigits
  rw [Nat.ofDigitChars_eq_ofDigitChars_zero]
  congr 1
  rw [paddedDigits, Nat.ofDigitChars_append, Nat.ofDigitChars_replicate_zero, Nat.mul_zero, value]

theorem ne_point_of_isDigit {c : Char} (digit : c.isDigit = true) : (c != '.') = true := by
  rw [bne_iff_ne]
  rintro rfl
  revert digit
  decide

/-- Digits, a point and places stand for the whole number with all the digits, in units of the last
place. -/
theorem magnitudeValue_pointed (places n : Nat) :
    magnitudeValue (pointed places n) = n / 10 ^ places := by
  have plain : ∀ c ∈ digits (n / Nat.pow 10 places), (c != '.') = true :=
    fun c mem => ne_point_of_isDigit ((isDigitRow_digits _).all c mem)
  have value : Nat.ofDigitChars 10 (digits (n / Nat.pow 10 places)) 0 = n / Nat.pow 10 places :=
    Nat.ofDigitChars_ten_toDigits
  rcases Nat.eq_zero_or_pos places with rfl | pos
  · have whole : pointed 0 n = digits n := by simp [pointed]
    have plain' : ∀ c ∈ digits n, (c != '.') = true := by simpa using plain
    have value' : Nat.ofDigitChars 10 (digits n) 0 = n := Nat.ofDigitChars_ten_toDigits
    rw [magnitudeValue, whole, List.takeWhile_eq_self_iff.2 plain',
      List.dropWhile_eq_nil_iff.2 plain', List.drop_nil, List.append_nil, value']
    rfl
  · have length : (paddedDigits places (n % Nat.pow 10 places)).length = places :=
      length_paddedDigits pos (Nat.mod_lt _ (Nat.pow_pos (by decide)))
    have parts : pointed places n = digits (n / Nat.pow 10 places) ++
        '.' :: paddedDigits places (n % Nat.pow 10 places) := by
      rw [pointed, if_neg (by omega)]
    have coefficient : Nat.ofDigitChars 10 (digits (n / Nat.pow 10 places) ++
        paddedDigits places (n % Nat.pow 10 places)) 0 = n := by
      rw [Nat.ofDigitChars_append, ofDigitChars_paddedDigits, length, value]
      exact Nat.div_add_mod n _
    rw [magnitudeValue, parts, List.takeWhile_append_of_pos plain,
      List.dropWhile_append_of_pos plain, List.takeWhile_cons_of_neg (by decide),
      List.dropWhile_cons_of_neg (by decide), List.append_nil, List.drop_one, List.tail_cons,
      coefficient, length]

/-- Digits come first, and no sign. -/
theorem pointed_ne_minus (places n : Nat) (rest : List Char) : pointed places n ≠ '-' :: rest := by
  intro same
  have row := isDigitRow_digits (n / Nat.pow 10 places)
  obtain ⟨c, more, first⟩ := List.exists_cons_of_ne_nil row.nonempty
  rw [pointed, first, List.cons_append, List.cons.injEq] at same
  have digit := row.all '-' (by rw [first, same.1]; exact List.mem_cons_self)
  revert digit
  decide

theorem decimalValue_pointed (negative : Bool) (places n : Nat) :
    decimalValue (signMark negative ++ pointed places n) =
      if negative then -(n / 10 ^ places : ℚ) else n / 10 ^ places := by
  rw [← magnitudeValue_pointed]
  cases negative with
  | true => rfl
  | false =>
      change decimalValue (pointed places n) = magnitudeValue (pointed places n)
      unfold decimalValue
      split
      · next rest same => exact absurd same (pointed_ne_minus places n rest)
      · rfl

/-- With fixed places, a number stands for what it rounds to. -/
theorem decimalValue_fixed (negative : Bool) {units : Nat} (h : Representable units)
    (places : Nat) :
    decimalValue ((finite negative units h).fixed places).toList =
      if negative then -(roundHalfEven (units * Nat.pow 10 places) one / 10 ^ places : ℚ)
      else roundHalfEven (units * Nat.pow 10 places) one / 10 ^ places := by
  rw [fixed, String.toList_ofList, decimalValue_pointed]

/-! ## Numbers of which zeros are left -/

/-- Is the number at most half of the last place away from zero, for so many places? -/
def VanishesAt (places : Nat) : Binary64 → Prop
  | .finite _ units _ => 2 * (units * Nat.pow 10 places) ≤ one
  | _ => False

instance (places : Nat) (x : Binary64) : Decidable (x.VanishesAt places) :=
  match x with
  | .finite _ units _ => inferInstanceAs (Decidable (2 * (units * Nat.pow 10 places) ≤ one))
  | .nan => inferInstanceAs (Decidable False)
  | .infinite _ => inferInstanceAs (Decidable False)

/-- Is the number below zero, and yet nothing but zeros left of it? -/
def FadesBelow (places : Nat) (x : Binary64) : Prop :=
  x.neg.isPositive = true ∧ x.VanishesAt places

instance (places : Nat) (x : Binary64) : Decidable (x.FadesBelow places) :=
  inferInstanceAs (Decidable (_ ∧ _))

variable {places : Nat} {x : Binary64}

theorem vanishesAt_finite_iff {negative : Bool} {units : Nat} {h : Representable units} :
    (finite negative units h).VanishesAt places ↔
      roundHalfEven (units * Nat.pow 10 places) one = 0 :=
  (roundHalfEven_eq_zero_iff one_pos).symm

/-- A number with fixed places stands for something positive if it is positive itself and something
is left of it. -/
theorem decimalValue_fixed_pos_iff (finite : x.isFinite = true) :
    0 < decimalValue (x.fixed places).toList ↔ x.isPositive = true ∧ ¬ x.VanishesAt places := by
  obtain ⟨negative, units, h, rfl⟩ := exists_of_isFinite finite
  have some : roundHalfEven (units * Nat.pow 10 places) one ≠ 0 → units ≠ 0 := by
    rintro left rfl
    refine left ((roundHalfEven_eq_zero_iff one_pos).2 ?_)
    rw [Nat.zero_mul, Nat.mul_zero]
    exact Nat.zero_le one
  rw [decimalValue_fixed, vanishesAt_finite_iff]
  generalize roundHalfEven (units * Nat.pow 10 places) one = n at some ⊢
  have power : (0 : ℚ) < 10 ^ places := by positivity
  cases negative with
  | true =>
      have least : (0 : ℚ) ≤ n / 10 ^ places := by positivity
      refine iff_of_false ?_ fun positive => Bool.false_ne_true positive.1
      rw [if_pos rfl, not_lt]
      exact neg_nonpos.2 least
  | false =>
      have positive : (Binary64.finite false units h).isPositive = true ↔ units ≠ 0 := by
        simp [isPositive]
      rw [if_neg Bool.false_ne_true, div_pos_iff_of_pos_right power, Nat.cast_pos, positive,
        Nat.pos_iff_ne_zero]
      exact ⟨fun left => ⟨some left, left⟩, And.right⟩

/-- Only for the count zero is a text with places the zero with those places. -/
theorem pointed_eq_zero_iff {n : Nat} : pointed places n = pointed places 0 ↔ n = 0 := by
  constructor
  · intro same
    have power : (10 : ℚ) ^ places ≠ 0 := by positivity
    have value := magnitudeValue_pointed places n
    rw [same, magnitudeValue_pointed, div_left_inj' power] at value
    exact (Nat.cast_injective value).symm
  · rintro rfl
    rfl

theorem nonFinite_ne_minus (x : Binary64) : x.nonFinite ≠ '-' :: pointed places 0 := by
  intro same
  have plain : IsPlain places ('-' :: pointed places 0) := isPlain_pointed true places 0
  rw [← same] at plain
  exact not_isPlain_nonFinite x plain

/-- A number other than zero keeps its sign, and so does what is written of it. -/
theorem toList_fixed_unsignedZero {negative : Bool} {units : Nat} {h : Representable units}
    (pos : 0 < units) :
    ((finite negative units h).unsignedZero.fixed places).toList =
      signMark negative ++ pointed places (roundHalfEven (units * Nat.pow 10 places) one) := by
  have other : (finite negative units h).isZero ≠ true := by
    simpa [isZero] using Nat.ne_of_gt pos
  rw [unsignedZero, if_neg other, fixed, String.toList_ofList]

/-- What is written without the sign of a zero is a zero with a sign all the same if the number is
below zero and nothing is left of it. -/
theorem fixed_unsignedZero_eq_iff :
    (x.unsignedZero.fixed places).toList = '-' :: pointed places 0 ↔ x.FadesBelow places := by
  cases x with
  | nan | infinite =>
      rw [toList_fixed_of_not_finite rfl]
      exact iff_of_false (nonFinite_ne_minus _) And.right
  | finite negative units h =>
      rcases Nat.eq_zero_or_pos units with rfl | pos
      · have unsigned : (zero.fixed places).toList ≠ '-' :: pointed places 0 := by
          rw [zero, fixed, String.toList_ofList]
          exact pointed_ne_minus _ _ _
        refine iff_of_false unsigned ?_
        rintro ⟨below, -⟩
        cases negative <;> cases below
      · rw [toList_fixed_unsignedZero pos, FadesBelow, vanishesAt_finite_iff]
        cases negative with
        | false =>
            refine iff_of_false (pointed_ne_minus _ _ _) ?_
            rintro ⟨below, -⟩
            cases below
        | true =>
            have below : (Binary64.finite true units h).neg.isPositive = true := by
              simpa [neg, isPositive] using Nat.ne_of_gt pos
            rw [and_iff_right below, ← @pointed_eq_zero_iff places]
            exact List.cons_inj_right '-'

end Binary64

end Wireform
