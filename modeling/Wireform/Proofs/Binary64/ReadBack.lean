import Wireform.Proofs.Binary64.Places
import Wireform.Proofs.Program.Literal

/-!
Reading a number back from its compact text.

Whatever way digits are laid out, they are read as a decimal with the same value (`write_eq`), and
only the value counts for the number that is taken (`ofDecimal_eq_finite`). The shortest digits were
found by trying just that, so they read back; a whole number is written in full. So nothing of a
finite number is lost but the sign of zero.
-/

namespace Wireform

namespace Binary64

open Statement (natOfDigits written)

/-! ## The number closest to a decimal -/

/-- The count of units that a decimal rounds to. -/
def decimalUnits (coefficient : Nat) (exponent : Int) : Nat :=
  nearestUnits (coefficient * Nat.pow 10 exponent.toNat * one) (Nat.pow 10 (-exponent).toNat)

theorem pow_ten_pos (k : Nat) : 0 < Nat.pow 10 k :=
  Nat.pow_pos (by decide)

theorem nearestUnits_congr {a b c d : Nat} (posB : 0 < b) (posD : 0 < d) (same : a * d = c * b) :
    nearestUnits a b = nearestUnits c d :=
  Nat.le_antisymm (nearestUnits_mono posB posD same.le) (nearestUnits_mono posD posB same.ge)

/-- Zeros at the end of the digits are worth as much as the exponent. -/
theorem decimalUnits_mul_pow (c k : Nat) (e : Int) :
    decimalUnits (c * 10 ^ k) e = decimalUnits c (e + k) := by
  refine nearestUnits_congr (pow_ten_pos _) (pow_ten_pos _) ?_
  have powers : 10 ^ k * 10 ^ e.toNat * 10 ^ (-(e + k)).toNat =
      10 ^ (e + k).toNat * 10 ^ (-e).toNat := by
    rw [← Nat.pow_add, ← Nat.pow_add, ← Nat.pow_add]
    congr 1
    omega
  simp only [Nat.pow_eq]
  generalize one = unit
  calc c * 10 ^ k * 10 ^ e.toNat * unit * 10 ^ (-(e + k)).toNat
      = c * unit * (10 ^ k * 10 ^ e.toNat * 10 ^ (-(e + k)).toNat) := by ring
    _ = c * 10 ^ (e + k).toNat * unit * 10 ^ (-e).toNat := by
        rw [powers]
        ring

section Decimal

variable {coefficient : Nat} {exponent : Int}

/-- What is far below the least unit rounds to zero. -/
theorem decimalUnits_of_size (small : exponent + (Nat.toDigits 10 coefficient).length < -400) :
    decimalUnits coefficient exponent = 0 := by
  have bound := lt_pow_length_digits coefficient
  obtain ⟨p, half, unit⟩ : ∃ p, p = 200 ∧ one * 2 ≤ 10 ^ p * 10 ^ p := ⟨200, rfl, by decide +kernel⟩
  have whole : exponent.toNat = 0 := by omega
  have below :
      coefficient * Nat.pow 10 exponent.toNat * one * 2 ≤ 1 * Nat.pow 10 (-exponent).toNat := by
    rw [whole, Nat.one_mul]
    calc coefficient * Nat.pow 10 0 * one * 2
        = coefficient * (one * 2) := by rw [Nat.pow_eq, Nat.pow_zero, Nat.mul_one, Nat.mul_assoc]
      _ ≤ 10 ^ (Nat.toDigits 10 coefficient).length * (10 ^ p * 10 ^ p) :=
          Nat.mul_le_mul bound.le unit
      _ ≤ 10 ^ (-exponent).toNat := by
          rw [← Nat.pow_add, ← Nat.pow_add]
          exact Nat.pow_le_pow_right (by decide) (by omega)
  have none : nearestUnits 1 2 = 0 := by decide
  have least := nearestUnits_mono (pow_ten_pos _) (by decide) below
  rw [none] at least
  exact Nat.le_zero.1 least

/-- A decimal is taken as the number that it rounds to. -/
theorem ofDecimal_eq_finite (negative : Bool) {units : Nat} (h : Representable units)
    (nonzero : units ≠ 0) (rounds : decimalUnits coefficient exponent = units) :
    ofDecimal negative coefficient exponent = .finite negative units h := by
  simp only [ofDecimal]
  split
  · next tiny =>
    rcases tiny with rfl | small
    · have none : decimalUnits 0 exponent = nearestUnits 0 1 := by
        refine nearestUnits_congr (pow_ten_pos _) Nat.one_pos ?_
        rw [Nat.zero_mul, Nat.zero_mul, Nat.zero_mul, Nat.zero_mul]
      exact absurd (rounds.symm.trans (none.trans (by decide))) nonzero
    · exact absurd (rounds.symm.trans (decimalUnits_of_size small)) nonzero
  · next notTiny =>
    have inside : decimalUnits coefficient exponent < limit := by
      rw [rounds]
      exact h.1
    split
    · next great =>
      have outside := rangeEnd_le_of_size (by omega) great
      have scaled := (nearestUnits_lt_limit_iff (pow_ten_pos _)).1 inside
      rw [Nat.mul_right_comm rangeEnd, Nat.mul_lt_mul_right one_pos] at scaled
      exact absurd scaled (Nat.not_lt.2 outside)
    · subst rounds
      exact dif_pos inside

end Decimal

/-! ## Digits as they are laid out -/

theorem natOfDigits_append_zeros (ds : List Char) (k : Nat) :
    natOfDigits (ds ++ List.replicate k '0') = natOfDigits ds * 10 ^ k := by
  change Nat.ofDigitChars 10 _ 0 = Nat.ofDigitChars 10 ds 0 * _
  rw [Nat.ofDigitChars_append, Nat.ofDigitChars_replicate_zero, Nat.mul_comm]

theorem natOfDigits_zeros_append (ds : List Char) (k : Nat) :
    natOfDigits (List.replicate k '0' ++ ds) = natOfDigits ds := by
  change Nat.ofDigitChars 10 _ 0 = Nat.ofDigitChars 10 ds 0
  rw [Nat.ofDigitChars_append, Nat.ofDigitChars_replicate_zero, Nat.mul_zero]

/-- An exponent is read as it was written. -/
theorem exponent?_exponentText (k : Int) : exponent? (exponentText 'e' k) = some k := by
  have row := isDigitRow_paddedDigits 2 k.natAbs
  have run : digitRun (paddedDigits 2 k.natAbs) =
      ((paddedDigits 2 k.natAbs).map fun c => c.toNat - '0'.toNat, []) := by
    have read := Statement.digitRunFrom_append row.all
      (show ∀ inside, digitRunFrom inside [] = ([], []) from fun _ => rfl) false
    rwa [List.append_nil] at read
  have value : natOfDigits (paddedDigits 2 k.natAbs) = k.natAbs := by
    have padded := ofDigitChars_paddedDigits 2 k.natAbs 0
    rwa [Nat.mul_zero, Nat.zero_add] at padded
  have magnitude (mark : Char) (negative : Bool)
      (marked : sign (mark :: paddedDigits 2 k.natAbs) = (negative, paddedDigits 2 k.natAbs)) :
      exponent? ('e' :: mark :: paddedDigits 2 k.natAbs) =
        some (if negative then -(k.natAbs : Int) else k.natAbs) := by
    simp only [exponent?, marked, run, Statement.digitsValue_map, value]
    simp [row.nonempty]
  rw [exponentText]
  split
  · rw [magnitude '-' true rfl, if_pos rfl]
    congr 1
    omega
  · rw [magnitude '+' false rfl, if_neg Bool.false_ne_true]
    congr 1
    omega

/-- Digits that are laid out are a literal, with an exponent behind it or none, for the decimal that
the digits and the place of the point make up. -/
theorem write_eq {ds : List Char} (row : IsDigitRow ds) (point : Int) :
    ∃ digits places rest e, plainLayout.write ds point = written digits places ++ rest ∧
      IsDigitRow digits ∧ (∀ c ∈ places, c.isDigit = true) ∧ exponent? rest = some e ∧
      decimalUnits (natOfDigits (digits ++ places)) (e - places.length) =
        decimalUnits (natOfDigits ds) (point - ds.length) := by
  rw [Layout.write]
  split
  · split
    · next small =>
      -- All digits stand behind the point, with zeros in front of them.
      obtain ⟨k, rfl⟩ : ∃ k : Nat, point = -k := ⟨(-point).toNat, by omega⟩
      refine ⟨['0'], List.replicate k '0' ++ ds, [], 0, ?_, isDigitRow_zero,
        (row.append_left isDigit_of_mem_replicate).all, rfl, ?_⟩
      · have more : List.replicate k '0' ++ ds ≠ [] :=
          List.append_ne_nil_of_right_ne_nil _ row.nonempty
        rw [written, if_neg more, List.append_nil]
        simp
      · have value : natOfDigits (['0'] ++ (List.replicate k '0' ++ ds)) = natOfDigits ds :=
          natOfDigits_zeros_append ds (k + 1)
        rw [value]
        congr 1
        simp
        omega
    · next positive =>
      split
      · next short =>
        -- Zeros fill up the places in front of the point.
        obtain ⟨k, rfl⟩ : ∃ k : Nat, point = ds.length + k := ⟨point.toNat - ds.length, by omega⟩
        have zeros : (ds.length + k : Int).toNat - ds.length = k := by omega
        rw [zeros]
        refine ⟨ds ++ List.replicate k '0', ['0'], [], 0, ?_, row.append isDigit_of_mem_replicate,
          isDigitRow_zero.all, rfl, ?_⟩
        · rw [written, if_neg (List.cons_ne_nil _ _), List.append_nil]
        · have all : ds ++ List.replicate k '0' ++ ['0'] = ds ++ List.replicate (k + 1) '0' := by
            rw [List.append_assoc, List.replicate_succ']
          rw [all, natOfDigits_append_zeros, decimalUnits_mul_pow]
          congr 1
          simp only [List.length_singleton]
          omega
      · next long =>
        have length : (ds.drop point.toNat).length = ds.length - point.toNat := List.length_drop
        have more : ds.drop point.toNat ≠ [] := by
          rw [Ne, List.drop_eq_nil_iff]
          omega
        have front : ds.take point.toNat ≠ [] := by
          rw [Ne, List.take_eq_nil_iff, not_or]
          exact ⟨by omega, row.nonempty⟩
        refine ⟨ds.take point.toNat, ds.drop point.toNat, [], 0, ?_,
          ⟨front, fun c mem => row.all c (List.mem_of_mem_take mem)⟩,
          fun c mem => row.all c (List.mem_of_mem_drop mem), rfl, ?_⟩
        · rw [written, if_neg more, List.append_nil]
        · rw [List.take_append_drop]
          congr 1
          omega
  · have length : (ds.drop 1).length = ds.length - 1 := List.length_drop
    have long : 0 < ds.length := List.length_pos_of_ne_nil row.nonempty
    have front : ds.take 1 ≠ [] := by
      rw [Ne, List.take_eq_nil_iff, not_or]
      exact ⟨by decide, row.nonempty⟩
    refine ⟨ds.take 1, ds.drop 1, exponentText 'e' (point - 1), point - 1, ?_,
      ⟨front, fun c mem => row.all c (List.mem_of_mem_take mem)⟩,
      fun c mem => row.all c (List.mem_of_mem_drop mem), exponent?_exponentText _, ?_⟩
    · have one : ds.length ≤ 1 ↔ ds.drop 1 = [] := List.drop_eq_nil_iff.symm
      simp only [written, one]
      rfl
    · rw [List.take_append_drop]
      congr 1
      omega

theorem isNumberBlank_of_isNumberChar {c : Char} (h : isNumberChar c = true) :
    isNumberBlank c = false := by
  rcases Bool.or_eq_true_iff.1 h with digit | mark
  · exact Statement.isNumberBlank_of_isDigit digit
  · have none : ("+-.aefin".toList.all fun c => !isNumberBlank c) = true := by decide
    have kept := List.all_eq_true.1 none c (List.contains_iff_mem.1 mark)
    simpa using kept

/-- A literal behind a sign, with an exponent or none, is read as the number that it rounds to. -/
theorem ofChars?_literal (negative : Bool) {text digits places rest : List Char} {e : Int}
    (literal : text = written digits places ++ rest) (whole : IsDigitRow digits)
    (part : ∀ c ∈ places, c.isDigit = true) (exponent : exponent? rest = some e)
    (chars : ∀ c ∈ text, isNumberChar c = true) {units : Nat} (h : Representable units)
    (nonzero : units ≠ 0)
    (rounds : decimalUnits (natOfDigits (digits ++ places)) (e - places.length) = units) :
    ofChars? (signMark negative ++ text) = some (.finite negative units h) := by
  have read := Statement.unsigned?_written_append negative whole.nonempty whole.all part exponent
  rw [ofDecimal_eq_finite negative h nonzero rounds, ← literal] at read
  have last : ∀ c ∈ text.getLast?, isNumberBlank c = false :=
    fun c mem => isNumberBlank_of_isNumberChar (chars c (List.mem_of_getLast? mem))
  obtain ⟨d, more, front⟩ := List.exists_cons_of_ne_nil whole.nonempty
  have first : d.isDigit = true := whole.all d (by rw [front]; exact List.mem_cons_self)
  obtain ⟨cs, rfl⟩ : ∃ cs, text = d :: cs := by
    rw [literal, front]
    exact ⟨_, rfl⟩
  exact Statement.ofChars?_of_unsigned? first last read

/-! ## The digits of a number -/

/-- The digits that count, with zeros behind them, are all the digits. -/
theorem exists_digits_eq (n : Nat) :
    ∃ k, digits n = significantDigits n ++ List.replicate k '0' := by
  have split := List.takeWhile_append_dropWhile (p := (· == '0')) (l := (digits n).reverse)
  have zeros : (digits n).reverse.takeWhile (· == '0') =
      List.replicate ((digits n).reverse.takeWhile (· == '0')).length '0' :=
    List.eq_replicate_of_mem fun c mem => eq_of_beq (List.mem_takeWhile_imp (p := (· == '0')) mem)
  refine ⟨((digits n).reverse.takeWhile (· == '0')).length, ?_⟩
  rw [← List.reverse_replicate, ← zeros, significantDigits, ← List.reverse_append, split,
    List.reverse_reverse]

theorem decimalUnits_neg (c places : Nat) :
    decimalUnits c (-places) = nearestUnits (c * one) (Nat.pow 10 places) := by
  have front : (-(places : Int)).toNat = 0 := by omega
  have behind : (-(-(places : Int))).toNat = places := by omega
  rw [decimalUnits, front, behind, Nat.pow_eq, Nat.pow_zero, Nat.mul_one]

/-- The digits that count make up the shortest decimal, so they round to the number. -/
theorem decimalUnits_significantDigits {units : Nat} (h : Representable units) :
    decimalUnits (natOfDigits (significantDigits (shortest units).coefficient))
      (point units - (significantDigits (shortest units).coefficient).length) = units := by
  obtain ⟨j, exponent, reads⟩ := readsBack_shortest h
  obtain ⟨k, split⟩ := exists_digits_eq (shortest units).coefficient
  have value : natOfDigits (digits (shortest units).coefficient) = (shortest units).coefficient :=
    Nat.ofDigitChars_ten_toDigits
  have length := congrArg List.length split
  rw [List.length_append, List.length_replicate] at length
  rw [split, natOfDigits_append_zeros] at value
  have place : point units - (significantDigits (shortest units).coefficient).length =
      -(unitPlaces : Int) + j + k := by
    unfold point
    rw [exponent, length]
    generalize unitPlaces = places
    omega
  rw [place, ← decimalUnits_mul_pow, value, ← decimalUnits_mul_pow, decimalUnits_neg]
  exact readsBack_iff.1 reads

theorem ofChars?_chars (negative : Bool) {units : Nat} (h : Representable units)
    (nonzero : units ≠ 0) :
    ofChars? (finite negative units h).chars = some (.finite negative units h) := by
  have row := isDigitRow_significantDigits (coefficient_shortest_pos h nonzero)
  obtain ⟨digits, places, rest, e, layout, whole, part, exponent, value⟩ :=
    write_eq row (point units)
  rw [chars, if_neg nonzero]
  exact ofChars?_literal negative layout whole part exponent (isNumberChar_write row _) h nonzero
    (value.trans (decimalUnits_significantDigits h))

/-- The digits of a whole number are read as that number. -/
theorem ofChars?_digits (negative : Bool) {n units : Nat} (h : Representable units)
    (nonzero : units ≠ 0) (whole : n * one = units) :
    ofChars? (signMark negative ++ digits n) = some (.finite negative units h) := by
  have row := isDigitRow_digits n
  have literal : digits n = written (digits n) [] ++ [] := by
    rw [written, if_pos rfl, List.append_nil, List.append_nil]
  refine ofChars?_literal negative literal row (List.forall_mem_nil _) rfl
    (fun c mem => isNumberChar_of_isDigit (row.all c mem)) h nonzero ?_
  have value : natOfDigits (digits n ++ []) = n := by
    rw [List.append_nil]
    exact Nat.ofDigitChars_ten_toDigits
  have held := nearestUnits_of_representable h Nat.one_pos
  rw [Nat.mul_one, ← whole] at held
  rw [value, ← whole]
  exact (decimalUnits_neg n 0).trans held

/-- The compact text of a finite number reads back as the number, and that of zero as zero without a
sign. -/
theorem ofText?_compact {x : Binary64} (finite : x.isFinite = true) :
    ofText? x.compact = some x.unsignedZero ∧ x.unsignedZero.sameValue x = true := by
  obtain ⟨negative, units, h, rfl⟩ := exists_of_isFinite finite
  rcases Nat.eq_zero_or_pos units with rfl | pos
  · have digit : (Binary64.finite negative 0 h).compact = "0" := by
      rw [compact, if_pos (Nat.zero_mod _), Nat.zero_div, bne_self_eq_false, Bool.and_false]
      rfl
    have unsigned : (Binary64.finite negative 0 h).unsignedZero = zero := if_pos rfl
    rw [digit, unsigned]
    refine ⟨by decide +kernel, ?_⟩
    cases negative <;> rfl
  · have nonzero : units ≠ 0 := Nat.ne_of_gt pos
    have other : (Binary64.finite negative units h).isZero ≠ true := by
      simpa [isZero] using nonzero
    rw [unsignedZero, if_neg other]
    refine ⟨?_, by simp [sameValue]⟩
    rw [compact]
    split
    · next whole =>
      have signs : (negative && units != 0) = negative := by
        rw [bne_iff_ne.2 nonzero, Bool.and_true]
      rw [signs, ofText?, String.toList_ofList]
      exact ofChars?_digits negative h nonzero (Nat.div_mul_cancel (Nat.dvd_of_mod_eq_zero whole))
    · rw [ofText?, text, String.toList_ofList]
      exact ofChars?_chars negative h nonzero

/-- The least positive number is written with an exponent, and the number closest to `10 ^ 23`,
which is a little less, with all its digits. -/
theorem ofText?_compact_least_and_whole :
    (ofDecimal false 5 (-324)).isFinite = true ∧ (ofDecimal true 1 23).isFinite = true ∧
      ofText? (ofDecimal false 5 (-324)).compact = some (ofDecimal false 5 (-324)).unsignedZero ∧
      ofText? (ofDecimal true 1 23).compact = some (ofDecimal true 1 23).unsignedZero := by
  have least : (ofDecimal false 5 (-324)).isFinite = true := by decide +kernel
  have whole : (ofDecimal true 1 23).isFinite = true := by decide +kernel
  exact ⟨least, whole, (ofText?_compact least).1, (ofText?_compact whole).1⟩

end Binary64

end Wireform
