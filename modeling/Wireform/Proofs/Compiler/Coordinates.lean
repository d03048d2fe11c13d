import Wireform.Proofs.Binary64.Rounding
import Wireform.Proofs.Compiler.Outcome
import Wireform.Proofs.Gcode.Continuation
import Wireform.Proofs.Gcode.Coordinate
import Wireform.Proofs.Settings.Validity

/-!
The positions in what a text compiles to.

A literal may have as many digits as it likes, but a number may not: from the middle between the
largest number and `2 ^ 1024` on, a literal stands for infinity. Nothing later in the way to G-code
looks at that, so it reaches the machine. `compile_coordinates_plain_iff` says exactly when: the
positions of a compiled text are decimal numbers with five places if and only if no literal that the
unrolled program makes use of is oversized.
-/

namespace Wireform

namespace Statement

/-- A number literal in its parts. -/
structure Literal where
  negative : Bool
  digits : List Char
  /-- The digits behind the point; without any there is no point. -/
  places : List Char
  nonempty : digits ≠ []
  all : ∀ c ∈ digits ++ places, c.isDigit = true

namespace Literal

/-- The literal as it is written. -/
def text (l : Literal) : List Char :=
  Binary64.signMark l.negative ++ written l.digits l.places

/-- Does the literal stand for the end of the range of numbers, or for more than that? -/
def IsOversized (l : Literal) : Prop :=
  Binary64.rangeEnd * Nat.pow 10 l.places.length ≤ natOfDigits (l.digits ++ l.places)

theorem ofChars?_text (l : Literal) : Binary64.ofChars? l.text =
    some (.ofDecimal l.negative (natOfDigits (l.digits ++ l.places)) (-(l.places.length : Int))) := by
  obtain ⟨all, allPlaces⟩ := List.forall_mem_append.1 l.all
  obtain ⟨unsigned, negative⟩ := ofChars?_written l.nonempty all allPlaces
  rw [text]
  cases l.negative with
  | false => exact unsigned
  | true => exact negative

/-- A literal stands for a finite number exactly if it is not oversized. -/
theorem isFinite_iff (l : Literal) {x : Binary64} (value : Binary64.ofChars? l.text = some x) :
    x.isFinite = true ↔ ¬ l.IsOversized := by
  rw [ofChars?_text] at value
  cases value
  rw [Binary64.isFinite_ofDecimal_iff, IsOversized, Nat.not_le, Int.neg_neg, Int.toNat_natCast,
    Int.toNat_neg_natCast, Nat.pow_eq, Nat.pow_zero, Nat.mul_one]

theorem ne_nan (l : Literal) {x : Binary64} (value : Binary64.ofChars? l.text = some x) :
    x ≠ .nan := by
  rw [ofChars?_text] at value
  cases value
  exact Binary64.ofDecimal_ne_nan

end Literal

theorem Magnitude.exists_parts {text literal : List Char} (magnitude : Magnitude text literal) :
    ∃ digits places rest, literal = written digits places ∧ text = literal ++ rest ∧
      digits ≠ [] ∧ ∀ c ∈ digits ++ places, c.isDigit = true := by
  cases magnitude with
  | whole row nonempty plain =>
      refine ⟨literal, [], _, ?_, row.split, nonempty, ?_⟩
      · rw [written, if_pos rfl, List.append_nil]
      · rw [List.append_nil]
        exact row.all
  | @pointed digits behind places rest row nonempty fraction more =>
      refine ⟨digits, places, rest, ?_, ?_, nonempty, ?_⟩
      · rw [written, if_neg more]
      · rw [row.split, fraction.split, List.append_assoc, List.cons_append]
      · exact List.forall_mem_append.2 ⟨row.all, fraction.all⟩

theorem NumberAt.exists_literal {text literal : List Char} (number : NumberAt text literal) :
    ∃ (l : Literal) (rest : List Char), l.text = literal ∧ text = literal ++ rest := by
  cases number with
  | unsigned magnitude =>
      obtain ⟨digits, places, rest, rfl, split, nonempty, all⟩ := magnitude.exists_parts
      exact ⟨⟨false, digits, places, nonempty, all⟩, rest, rfl, split⟩
  | negative magnitude =>
      obtain ⟨digits, places, rest, rfl, split, nonempty, all⟩ := magnitude.exists_parts
      exact ⟨⟨true, digits, places, nonempty, all⟩, rest, rfl, congrArg _ split⟩

/-- A line has a literal behind `bend` or `feed`, and the literal stands for the number. -/
structure Spells (raw : List Char) (x : Binary64) (l : Literal) : Prop where
  there : ∃ keyword ∈ ["bend", "feed"], ∃ front blanks rest,
    lowered raw = front ++ (keyword.toList ++ (blanks ++ (l.text ++ rest))) ∧ Blanks blanks
  value : Binary64.ofChars? l.text = some x

/-- The number of an instruction is spelled on its line. -/
theorem exists_spells_of_ofLine {raw : List Char} {line : Int} {i : Instruction} {x : Binary64}
    (read : Instruction.ofLine raw line = .ok i) (number : i.command.amount? = some x) :
    ∃ l, Spells raw x l := by
  have reads := Instruction.reads_ofLine raw line
  rw [read] at reads
  cases reads with
  | blank => cases number
  | statement order passed finds =>
      obtain ⟨front, text, split, shape, -⟩ := finds
      cases shape with
      | bend apart at' value =>
          cases number
          obtain ⟨l, rest, rfl, rfl⟩ := at'.exists_literal
          exact ⟨l, ⟨"bend", by decide, front, _, rest, split, apart⟩, value⟩
      | feed apart at' value =>
          cases number
          obtain ⟨l, rest, rfl, rfl⟩ := at'.exists_literal
          exact ⟨l, ⟨"feed", by decide, front, _, rest, split, apart⟩, value⟩
      | _ => cases number

end Statement

open Statement

variable {c : Settings} {text gcode : String} {p flat : Program}

/-- Each number of an unrolled text is spelled on the line that its instruction names. -/
theorem exists_spells_of_expand (parsed : Program.ofSource text = .ok p)
    (expanded : p.expand = .ok flat) {i : Instruction} (mem : i ∈ flat) {x : Binary64}
    (number : i.command.amount? = some x) :
    ∃ (n : Nat) (raw : List Char) (l : Literal), i.line = some (n : Int) ∧
      (text.toList.splitOn '\n')[n]? = some raw ∧ Spells raw x l := by
  have held := (Program.mem_of_expand expanded i mem).1
  obtain ⟨n, raw, there, read⟩ := Program.exists_line_of_ofSource parsed held
  obtain ⟨l, spells⟩ := exists_spells_of_ofLine read number
  exact ⟨n, raw, l, Instruction.line_of_ofLine read, there, spells⟩

theorem knownUnit_of_expand (parsed : Program.ofSource text = .ok p)
    (expanded : p.expand = .ok flat) :
    ∀ i ∈ flat, ∀ code, i.command = .unit code → ∃ u, LengthUnit.ofCode? code = some u := by
  intro i mem code unit
  have statement := Program.isStatement_of_ofSource parsed i
    (Program.mem_of_expand expanded i mem).1
  rw [unit] at statement
  rcases statement with rfl | rfl
  · exact ⟨.inch, rfl⟩
  · exact ⟨.millimeter, rfl⟩

/-- The positions of a compiled text are decimal numbers with five places, or else infinite. They
are all decimal numbers exactly if the numbers of the unrolled program are finite, and such a number
is finite exactly if the literal that spells it is not oversized. -/
theorem compile_coordinates_plain_iff (valid : c.Valid)
    (compiled : (compile c text).outcome = .ok gcode) :
    ∃ p flat, Program.ofSource text = .ok p ∧ p.expand = .ok flat ∧
      (∀ t ∈ Gcode.coordinates gcode,
        Binary64.IsPlain 5 t.toList ∨ t = "inf" ∨ t = "-inf") ∧
      ((∀ t ∈ Gcode.coordinates gcode, Binary64.IsPlain 5 t.toList) ↔
        ∀ i ∈ flat, ∀ x, i.command.amount? = some x → x.isFinite = true) ∧
      ∀ i ∈ flat, ∀ x, i.command.amount? = some x →
        ∃ (n : Nat) (raw : List Char) (l : Literal), i.line = some (n : Int) ∧
          (text.toList.splitOn '\n')[n]? = some raw ∧ Spells raw x l ∧
          (x.isFinite = true ↔ ¬ l.IsOversized) := by
  rcases compile_cases c text with
    ⟨e, -, h⟩ | ⟨p, e, -, -, h⟩ | ⟨p, flat, lines, parsed, expanded, generated, h⟩
  · rw [h] at compiled
    cases compiled
  · rw [h] at compiled
    cases compiled
  rw [h] at compiled
  cases compiled
  have isFlat : flat.isFlat = true := Gcode.generate_eq_ok_iff.1 ⟨lines, generated⟩
  obtain ⟨positions, numbers⟩ :=
    Gcode.coordinates_generate isFlat generated (knownUnit_of_expand parsed expanded)
  have negative : c.negativeClearance.isFinite = true := valid.1 .negativeClearance
  have positive : c.positiveClearance.isFinite = true := valid.1 .positiveClearance
  refine ⟨p, flat, parsed, expanded, ?_, ⟨?_, ?_⟩, ?_⟩
  · intro t mem
    obtain ⟨x, rfl, rfl | rfl | ⟨i, member, number⟩⟩ := positions t mem
    · exact .inl (Gcode.isPlain_coordinate_iff.2 negative)
    · exact .inl (Gcode.isPlain_coordinate_iff.2 positive)
    · obtain ⟨n, raw, l, -, -, spells⟩ := exists_spells_of_expand parsed expanded member number
      exact Gcode.coordinate_plain_or_infinite (l.ne_nan spells.value)
  · intro plain i member x number
    exact Gcode.isPlain_coordinate_iff.1 (plain _ (numbers i member x number))
  · intro finite t mem
    obtain ⟨x, rfl, rfl | rfl | ⟨i, member, number⟩⟩ := positions t mem
    · exact Gcode.isPlain_coordinate_iff.2 negative
    · exact Gcode.isPlain_coordinate_iff.2 positive
    · exact Gcode.isPlain_coordinate_iff.2 (finite i member x number)
  · intro i member x number
    obtain ⟨n, raw, l, line, there, spells⟩ :=
      exists_spells_of_expand parsed expanded member number
    exact ⟨n, raw, l, line, there, spells, l.isFinite_iff spells.value⟩

theorem compile_of_flat (c : Settings) (parsed : Program.ofSource text = .ok p)
    (flat : p.isFlat = true) :
    ∃ lines, Gcode.generate c p = .ok lines ∧
      (compile c text).outcome = .ok (Gcode.render lines) := by
  obtain ⟨lines, generated⟩ := Gcode.generate_eq_ok_iff.2 flat
  refine ⟨lines, generated, ?_⟩
  simp only [compile, parsed, Program.expand_of_flat flat, generated]

/-- A feed and a bend with their numbers in the range. -/
theorem compile_coordinates_plain_iff_in_range :
    Settings.stock.Valid ∧
      ∃ gcode, (compile Settings.stock "feed 1.5\nbend -45").outcome = .ok gcode ∧
        ∀ t ∈ Gcode.coordinates gcode, Binary64.IsPlain 5 t.toList := by
  have valid := Settings.valid_stock
  have read : ((Program.ofSource "feed 1.5\nbend -45").toOption.any fun p =>
      p.isFlat && p.all fun i => i.command.amount?.all Binary64.isFinite) = true := by
    decide +kernel
  obtain ⟨p, parsed, checked⟩ := exists_of_any read
  obtain ⟨isFlat, finite⟩ := Bool.and_eq_true_iff.1 checked
  obtain ⟨lines, -, compiled⟩ := compile_of_flat Settings.stock parsed isFlat
  refine ⟨valid, _, compiled, ?_⟩
  obtain ⟨p', flat, parsed', expanded, -, plain, -⟩ := compile_coordinates_plain_iff valid compiled
  rw [parsed] at parsed'
  cases parsed'
  rw [Program.expand_of_flat isFlat] at expanded
  cases expanded
  refine plain.2 fun i mem x number => ?_
  have held := List.all_eq_true.1 finite i mem
  rwa [number] at held

/-- A feed by ten to the power 309 has a valid machine advance the wire to infinity. -/
theorem compile_coordinate_infinite :
    Settings.stock.Valid ∧
      ∃ gcode, (compile Settings.stock
          (String.ofList ("feed 1".toList ++ List.replicate 309 '0'))).outcome = .ok gcode ∧
        "inf" ∈ Gcode.coordinates gcode ∧ ¬ Binary64.IsPlain 5 "inf".toList := by
  have valid := Settings.valid_stock
  have read : ((Program.ofLines 0 (Program.linesOf
      ("feed 1".toList ++ List.replicate 309 '0'))).toOption.any fun p =>
        p.isFlat && p.any fun i => i.command.amount? == some (.infinite false)) = true := by
    decide +kernel
  obtain ⟨p, parsed, checked⟩ := exists_of_any read
  obtain ⟨isFlat, infinite⟩ := Bool.and_eq_true_iff.1 checked
  obtain ⟨i, mem, number⟩ := List.any_eq_true.1 infinite
  replace parsed : Program.ofSource (String.ofList ("feed 1".toList ++ List.replicate 309 '0')) =
      .ok p := by
    rw [Program.ofSource, String.toList_ofList, parsed]
  obtain ⟨lines, generated, compiled⟩ := compile_of_flat Settings.stock parsed isFlat
  have known := knownUnit_of_expand parsed (Program.expand_of_flat isFlat)
  have named := (Gcode.coordinates_generate isFlat generated known).2 i mem _ (eq_of_beq number)
  refine ⟨valid, _, compiled, named, fun plain => ?_⟩
  have shape := plain.of_mem (c := 'i') (by decide)
  revert shape
  decide

end Wireform
