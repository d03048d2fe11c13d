import Wireform.Proofs.Binary64.Value
import Wireform.Proofs.Gcode.Coordinate

/-!
Positions and rates as decimals.

Whatever finite number a machine is sent, as a position it has five places and as a rate three. The
decimal is the number rounded to its last place, from the least number of the format to the
greatest, so the order of numbers is the order of their decimals.
-/

namespace Wireform.Gcode

open Binary64 (IsFixed decimalValue)

variable {v w : Binary64}

theorem isFixed_coordinate (finite : v.isFinite = true) : IsFixed 5 (coordinate v).toList :=
  Binary64.isFixed_fixed (by decide) ((isFinite_unsignedZero v).trans finite)

theorem abs_coordinate_sub_le (finite : v.isFinite = true) :
    |decimalValue (coordinate v).toList - v.value| ≤ 5 / 1000000 := by
  have near : |decimalValue (coordinate v).toList - v.unsignedZero.value| ≤ 1 / (2 * 10 ^ 5) :=
    Binary64.abs_decimalValue_fixed_sub_le ((isFinite_unsignedZero v).trans finite)
  rw [Binary64.value_unsignedZero] at near
  refine near.trans (le_of_eq ?_)
  norm_num

theorem coordinate_mono (finite : v.isFinite = true) (finite' : w.isFinite = true)
    (le : v.value ≤ w.value) :
    decimalValue (coordinate v).toList ≤ decimalValue (coordinate w).toList := by
  apply Binary64.decimalValue_fixed_mono
  · exact (isFinite_unsignedZero v).trans finite
  · exact (isFinite_unsignedZero w).trans finite'
  · rwa [Binary64.value_unsignedZero, Binary64.value_unsignedZero]

theorem toList_rate (v : Binary64) : (rate v).toList = 'F' :: (v.fixed 3).toList :=
  String.toList_append

theorem abs_rate_sub_le (finite : v.isFinite = true) :
    |decimalValue (v.fixed 3).toList - v.value| ≤ 5 / 10000 := by
  refine (Binary64.abs_decimalValue_fixed_sub_le finite).trans (le_of_eq ?_)
  norm_num

/-- A finite number is sent as a decimal with five places, or three behind the letter of rates, that
is half of its last place from the number at most; and a greater number is not sent as less. -/
theorem coordinate_rate_near_value (finite : v.isFinite = true) :
    (IsFixed 5 (coordinate v).toList ∧
      |decimalValue (coordinate v).toList - v.value| ≤ 5 / 1000000) ∧
    (∃ text, (rate v).toList = 'F' :: text ∧ IsFixed 3 text ∧
      |decimalValue text - v.value| ≤ 5 / 10000) ∧
    ∀ w : Binary64, w.isFinite = true → v.value ≤ w.value →
      decimalValue (coordinate v).toList ≤ decimalValue (coordinate w).toList ∧
      decimalValue (rate v).toList.tail ≤ decimalValue (rate w).toList.tail := by
  refine ⟨⟨isFixed_coordinate finite, abs_coordinate_sub_le finite⟩, ?_, ?_⟩
  · exact ⟨_, toList_rate v, Binary64.isFixed_fixed (by decide) finite, abs_rate_sub_le finite⟩
  · intro w finite' le
    rw [toList_rate, toList_rate]
    exact ⟨coordinate_mono finite finite' le, Binary64.decimalValue_fixed_mono finite finite' le⟩

/-- From the least positive number to the greatest of all, which has 309 digits. -/
theorem coordinate_rate_near_value_extremes :
    (Binary64.ofDecimal false 5 (-324)).isFinite = true ∧
      (Binary64.ofDecimal false 17976931348623157 292).isFinite = true ∧
      IsFixed 5 (coordinate (.ofDecimal false 5 (-324))).toList ∧
      decimalValue (coordinate (.ofDecimal false 5 (-324))).toList ≤
        decimalValue (coordinate (.ofDecimal false 17976931348623157 292)).toList := by
  have least : (Binary64.ofDecimal false 5 (-324)).isFinite = true := by decide +kernel
  have greatest : (Binary64.ofDecimal false 17976931348623157 292).isFinite = true := by
    decide +kernel
  have order : (Binary64.ofDecimal false 5 (-324)).value ≤
      (Binary64.ofDecimal false 17976931348623157 292).value := by
    decide +kernel
  obtain ⟨⟨shape, -⟩, -, mono⟩ := coordinate_rate_near_value least
  exact ⟨least, greatest, shape, (mono _ greatest order).1⟩

end Wireform.Gcode
