import Mathlib.Data.List.TakeWhile
import Wireform.Proofs.Binary64.Shortest

/-!
Numbers in plain decimal notation.

`IsPlain places text` says that a text is a decimal number as a controller takes it: a minus sign or
none, digits, and a point only where digits follow it, `places` of them. Texts with fixed places are
of this shape for all finite numbers (`isPlain_fixed_iff`). Compact texts are, save for those that
are not zero and yet smaller than a ten-thousandth (`isPlain_compact_iff`): from there on the
shortest digits come with an exponent.
-/

namespace Wireform

namespace Binary64

/-- A row of digits, at least one. -/
structure IsDigitRow (ds : List Char) : Prop where
  nonempty : ds ≠ []
  all : ∀ c ∈ ds, c.isDigit = true

/-- A decimal number: a minus sign or none, digits, and a point only in front of places. There is no
room for a blank, a plus sign or an exponent. -/
inductive IsPlain : (places : Nat) → List Char → Prop
  | whole (negative : Bool) {ds : List Char} (row : IsDigitRow ds) :
    IsPlain 0 (signMark negative ++ ds)
  | pointed (negative : Bool) {ds part : List Char} (row : IsDigitRow ds)
      (places : IsDigitRow part) :
    IsPlain part.length (signMark negative ++ (ds ++ '.' :: part))

theorem IsPlain.of_mem {places : Nat} {text : List Char} (plain : IsPlain places text) {c : Char}
    (mem : c ∈ text) : c = '-' ∨ c = '.' ∨ c.isDigit = true := by
  have sign {negative : Bool} (mem : c ∈ signMark negative) : c = '-' := by
    cases negative with
    | false => cases mem
    | true => exact List.mem_singleton.1 mem
  cases plain with
  | whole negative row =>
      rcases List.mem_append.1 mem with mem | mem
      · exact .inl (sign mem)
      · exact .inr (.inr (row.all c mem))
  | pointed negative row part =>
      rw [List.mem_append, List.mem_append, List.mem_cons] at mem
      rcases mem with mem | mem | mem | mem
      · exact .inl (sign mem)
      · exact .inr (.inr (row.all c mem))
      · exact .inr (.inl mem)
      · exact .inr (.inr (part.all c mem))

/-! ## Rows of digits -/

theorem isDigitRow_digits (n : Nat) : IsDigitRow (digits n) where
  nonempty := Nat.toDigits_ne_nil
  all := fun _ mem => Nat.isDigit_of_mem_toDigits (by decide) (by decide) mem

theorem isDigitRow_zero : IsDigitRow ['0'] where
  nonempty := List.cons_ne_nil _ _
  all := by
    intro c mem
    rw [List.mem_singleton.1 mem]
    rfl

theorem isDigit_of_mem_replicate {n : Nat} : ∀ c ∈ List.replicate n '0', c.isDigit = true := by
  intro c mem
  rw [List.eq_of_mem_replicate mem]
  rfl

theorem IsDigitRow.append {ds es : List Char} (row : IsDigitRow ds)
    (all : ∀ c ∈ es, c.isDigit = true) : IsDigitRow (ds ++ es) where
  nonempty := List.append_ne_nil_of_left_ne_nil row.nonempty es
  all := List.forall_mem_append.2 ⟨row.all, all⟩

theorem IsDigitRow.append_left {ds es : List Char} (row : IsDigitRow ds)
    (all : ∀ c ∈ es, c.isDigit = true) : IsDigitRow (es ++ ds) where
  nonempty := List.append_ne_nil_of_right_ne_nil es row.nonempty
  all := List.forall_mem_append.2 ⟨all, row.all⟩

theorem isDigitRow_paddedDigits (width n : Nat) : IsDigitRow (paddedDigits width n) :=
  (isDigitRow_digits n).append_left isDigit_of_mem_replicate

theorem length_paddedDigits {width n : Nat} (pos : 0 < width) (small : n < 10 ^ width) :
    (paddedDigits width n).length = width := by
  have short : (digits n).length ≤ width :=
    (Nat.length_toDigits_le_iff (by decide) pos).2 small
  rw [paddedDigits, List.length_append, List.length_replicate]
  omega

/-- Without the zeros at its end, a number other than zero still has a digit. -/
theorem isDigitRow_significantDigits {n : Nat} (pos : 0 < n) :
    IsDigitRow (significantDigits n) where
  nonempty := by
    intro none
    rw [significantDigits, List.reverse_eq_nil_iff, List.dropWhile_eq_nil_iff] at none
    have zeros : digits n = List.replicate (digits n).length '0' := by
      refine List.eq_replicate_of_mem fun c mem => ?_
      exact eq_of_beq (none c (List.mem_reverse.2 mem))
    have value : Nat.ofDigitChars 10 (digits n) 0 = n := Nat.ofDigitChars_ten_toDigits
    rw [zeros, Nat.ofDigitChars_replicate_zero, Nat.mul_zero] at value
    omega
  all := by
    intro c mem
    rw [significantDigits, List.mem_reverse] at mem
    exact (isDigitRow_digits n).all c (List.mem_reverse.1 ((List.dropWhile_sublist _).mem mem))

/-! ## Fixed places -/

theorem isPlain_pointed (negative : Bool) (places n : Nat) :
    IsPlain places (signMark negative ++ pointed places n) := by
  rcases Nat.eq_zero_or_pos places with rfl | pos
  · rw [pointed, if_pos rfl, List.append_nil]
    exact .whole negative (isDigitRow_digits _)
  · have length : (paddedDigits places (n % Nat.pow 10 places)).length = places :=
      length_paddedDigits pos (Nat.mod_lt _ (Nat.pow_pos (by decide)))
    have plain := IsPlain.pointed negative (isDigitRow_digits (n / Nat.pow 10 places))
      (isDigitRow_paddedDigits places (n % Nat.pow 10 places))
    rw [length] at plain
    rwa [pointed, if_neg (by omega)]

theorem not_isPlain_nonFinite {places : Nat} (x : Binary64) : ¬ IsPlain places x.nonFinite := by
  intro plain
  have letter : 'n' ∈ x.nonFinite := by
    cases x <;> simp [nonFinite]
  have shape := plain.of_mem letter
  revert shape
  decide

theorem exists_of_isFinite {x : Binary64} (h : x.isFinite = true) :
    ∃ negative units held, x = .finite negative units held := by
  cases x with
  | finite negative units held => exact ⟨negative, units, held, rfl⟩
  | nan => cases h
  | infinite => cases h

theorem toList_fixed_of_not_finite {x : Binary64} (h : x.isFinite = false) (places : Nat) :
    (x.fixed places).toList = x.nonFinite := by
  cases x with
  | finite => cases h
  | nan => exact String.toList_ofList
  | infinite => exact String.toList_ofList

theorem toList_compact_of_not_finite {x : Binary64} (h : x.isFinite = false) :
    x.compact.toList = x.nonFinite := by
  cases x with
  | finite => cases h
  | nan => exact String.toList_ofList
  | infinite => exact String.toList_ofList

/-- With fixed places, exactly the finite numbers are plain. -/
theorem isPlain_fixed_iff {places : Nat} {x : Binary64} :
    IsPlain places (x.fixed places).toList ↔ x.isFinite = true := by
  cases finite : x.isFinite with
  | true =>
      obtain ⟨negative, units, held, rfl⟩ := exists_of_isFinite finite
      refine iff_of_true ?_ rfl
      rw [fixed, String.toList_ofList]
      exact isPlain_pointed negative places _
  | false =>
      rw [toList_fixed_of_not_finite finite]
      exact iff_of_false (not_isPlain_nonFinite x) Bool.false_ne_true

/-! ## Compact texts -/

/-- Is the number not zero, and yet less than a ten-thousandth away from it? -/
def IsTiny : Binary64 → Prop
  | .finite _ units _ => 0 < units ∧ units * 10000 < one
  | _ => False

instance (x : Binary64) : Decidable x.IsTiny :=
  match x with
  | .finite _ units _ => inferInstanceAs (Decidable (0 < units ∧ units * 10000 < one))
  | .nan => inferInstanceAs (Decidable False)
  | .infinite _ => inferInstanceAs (Decidable False)

theorem mark_mem_exponentText (mark : Char) (exponent : Int) :
    mark ∈ exponentText mark exponent :=
  List.mem_cons_self

/-- Digits are laid out plainly exactly if the exponent is in the range of the layout. -/
theorem isPlain_write_iff {ds : List Char} (row : IsDigitRow ds) (negative : Bool) (point : Int) :
    (∃ places, IsPlain places (signMark negative ++ plainLayout.write ds point)) ↔
      -4 ≤ point - 1 ∧ point - 1 < 16 := by
  rw [Layout.write]
  split
  · next inside =>
    refine iff_of_true ?_ inside
    split
    · -- All digits stand behind the point, with a zero in front of it.
      have places : IsDigitRow (List.replicate (-point).toNat '0' ++ ds) :=
        row.append_left isDigit_of_mem_replicate
      exact ⟨_, .pointed negative isDigitRow_zero places⟩
    · next positive =>
      split
      · have whole : IsDigitRow (ds ++ List.replicate (point.toNat - ds.length) '0') :=
          row.append isDigit_of_mem_replicate
        exact ⟨_, .pointed negative whole isDigitRow_zero⟩
      · next long =>
        have whole : IsDigitRow (ds.take point.toNat) := by
          refine ⟨?_, fun c mem => row.all c (List.mem_of_mem_take mem)⟩
          rw [Ne, List.take_eq_nil_iff, not_or]
          exact ⟨by omega, row.nonempty⟩
        have places : IsDigitRow (ds.drop point.toNat) := by
          refine ⟨?_, fun c mem => row.all c (List.mem_of_mem_drop mem)⟩
          rw [Ne, List.drop_eq_nil_iff]
          omega
        exact ⟨_, .pointed negative whole places⟩
  · next outside =>
    refine iff_of_false ?_ outside
    rintro ⟨places, plain⟩
    have shape := plain.of_mem (c := plainLayout.mark) (by simp [mark_mem_exponentText])
    revert shape
    decide

theorem isPlain_chars_iff {negative : Bool} {units : Nat} (h : Representable units)
    (fraction : units % one ≠ 0) :
    (∃ places, IsPlain places (finite negative units h).chars) ↔ one ≤ units * 10000 := by
  have nonzero := ne_zero_of_fraction fraction
  have row := isDigitRow_significantDigits (coefficient_shortest_pos h nonzero)
  have below := point_lt_of_fraction h fraction
  rw [chars, if_neg nonzero, ← le_point_iff h nonzero]
  exact (isPlain_write_iff row negative (point units)).trans (and_iff_left below)

/-- A compact text is plain exactly for a finite number that is not tiny. -/
theorem isPlain_compact_iff {x : Binary64} :
    (∃ places, IsPlain places x.compact.toList) ↔ x.isFinite = true ∧ ¬ x.IsTiny := by
  cases finite : x.isFinite with
  | false =>
      rw [toList_compact_of_not_finite finite]
      refine iff_of_false ?_ fun h => Bool.false_ne_true h.1
      rintro ⟨places, plain⟩
      exact not_isPlain_nonFinite x plain
  | true =>
      obtain ⟨negative, units, h, rfl⟩ := exists_of_isFinite finite
      rw [compact]
      split
      · next whole =>
        rw [String.toList_ofList]
        refine iff_of_true ⟨0, .whole _ (isDigitRow_digits _)⟩ ⟨rfl, ?_⟩
        rintro ⟨pos, small⟩
        have less : units < one := by omega
        rw [Nat.mod_eq_of_lt less] at whole
        omega
      · next fraction =>
        have pos : 0 < units := Nat.pos_of_ne_zero (ne_zero_of_fraction fraction)
        rw [text, String.toList_ofList, isPlain_chars_iff h fraction]
        simp only [IsTiny, pos, true_and, Nat.not_lt]

/-! ## The characters of numbers -/

/-- Can the character stand in the text of a number? -/
def isNumberChar (c : Char) : Bool :=
  c.isDigit || "+-.aefin".toList.contains c

theorem isNumberChar_of_isDigit {c : Char} (h : c.isDigit = true) : isNumberChar c = true := by
  rw [isNumberChar, h, Bool.true_or]

theorem IsPlain.isNumberChar {places : Nat} {text : List Char} (plain : IsPlain places text) :
    ∀ c ∈ text, isNumberChar c = true := by
  intro c mem
  rcases plain.of_mem mem with rfl | rfl | digit
  · decide
  · decide
  · exact isNumberChar_of_isDigit digit

theorem isNumberChar_signMark (negative : Bool) :
    ∀ c ∈ signMark negative, isNumberChar c = true := by
  rw [← List.all_eq_true]
  cases negative <;> decide

theorem isNumberChar_nonFinite (x : Binary64) : ∀ c ∈ x.nonFinite, isNumberChar c = true := by
  rw [← List.all_eq_true]
  cases x with
  | infinite negative => cases negative <;> decide
  | nan => decide
  | finite => rfl

theorem isNumberChar_fixed (places : Nat) (x : Binary64) :
    ∀ c ∈ (x.fixed places).toList, isNumberChar c = true := by
  cases finite : x.isFinite with
  | true => exact (isPlain_fixed_iff.2 finite).isNumberChar
  | false =>
      rw [toList_fixed_of_not_finite finite]
      exact isNumberChar_nonFinite x

theorem isNumberChar_exponentText (exponent : Int) :
    ∀ c ∈ exponentText 'e' exponent, isNumberChar c = true := by
  intro c mem
  rw [exponentText, List.mem_cons, List.mem_cons] at mem
  rcases mem with rfl | rfl | mem
  · decide
  · split <;> decide
  · exact isNumberChar_of_isDigit ((isDigitRow_paddedDigits 2 _).all c mem)

theorem isNumberChar_write {ds : List Char} (row : IsDigitRow ds) (point : Int) :
    ∀ c ∈ plainLayout.write ds point, isNumberChar c = true := by
  by_cases inside : plainLayout.least ≤ point - 1 ∧ point - 1 < plainLayout.bound
  · obtain ⟨places, plain⟩ := (isPlain_write_iff row false point).2 inside
    exact plain.isNumberChar
  · intro c mem
    rw [Layout.write, if_neg inside, List.mem_append, List.mem_append] at mem
    rcases mem with (mem | mem) | mem
    · exact isNumberChar_of_isDigit (row.all c (List.mem_of_mem_take mem))
    · split at mem
      · cases mem
      · rcases List.mem_cons.1 mem with rfl | mem
        · decide
        · exact isNumberChar_of_isDigit (row.all c (List.mem_of_mem_drop mem))
    · exact isNumberChar_exponentText _ c mem

theorem isNumberChar_compact (x : Binary64) : ∀ c ∈ x.compact.toList, isNumberChar c = true := by
  cases finite : x.isFinite with
  | false =>
      rw [toList_compact_of_not_finite finite]
      exact isNumberChar_nonFinite x
  | true =>
      obtain ⟨negative, units, h, rfl⟩ := exists_of_isFinite finite
      rw [compact]
      split
      · rw [String.toList_ofList]
        exact (IsPlain.whole _ (isDigitRow_digits _)).isNumberChar
      · next fraction =>
        have nonzero := ne_zero_of_fraction fraction
        have row := isDigitRow_significantDigits (coefficient_shortest_pos h nonzero)
        rw [text, String.toList_ofList, chars, if_neg nonzero]
        exact List.forall_mem_append.2
          ⟨isNumberChar_signMark negative, isNumberChar_write row _⟩

theorem not_mem_fixed {c : Char} (other : isNumberChar c = false) (places : Nat) (x : Binary64) :
    c ∉ (x.fixed places).toList := by
  intro mem
  rw [isNumberChar_fixed places x c mem] at other
  cases other

theorem not_mem_compact {c : Char} (other : isNumberChar c = false) (x : Binary64) :
    c ∉ x.compact.toList := by
  intro mem
  rw [isNumberChar_compact x c mem] at other
  cases other

end Binary64

end Wireform
