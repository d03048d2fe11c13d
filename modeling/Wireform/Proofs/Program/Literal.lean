import Mathlib.Data.List.Basic
import Mathlib.Data.List.Induction
import Mathlib.Data.List.TakeWhile
import Mathlib.Data.Nat.Digits.Defs
import Wireform.Program.Statement

/-!
Number literals.

A literal is an optional minus sign, digits, and a point only if digits follow it. Where a statement
has one at some place, the number that it takes is the one for which the literal stands as a text of
its own, whatever comes behind it on the line.

* `LongestRun`: the longest row at the front of a text that lies in a class of characters.
* `number?_eq_some_iff`: the number at the front of a text.
* `natOfDigits_eq_ofDigits`: the value of a row of digits.
-/

namespace Wireform

namespace Statement

/-- A text starts with a row of characters of a class, and what follows does not go on with it. -/
structure LongestRun (p : Char → Bool) (text row rest : List Char) : Prop where
  split : text = row ++ rest
  all : ∀ c ∈ row, p c = true
  stops : ∀ c ∈ rest.head?, p c = false

theorem longestRun_iff {p : Char → Bool} {text row rest : List Char} :
    LongestRun p text row rest ↔ row = text.takeWhile p ∧ rest = text.dropWhile p := by
  constructor
  · rintro ⟨rfl, all, stops⟩
    rw [List.takeWhile_append_of_pos all, List.dropWhile_append_of_pos all]
    cases rest with
    | nil => simp
    | cons c rest =>
        have stop := stops c rfl
        simp [stop]
  · rintro ⟨rfl, rfl⟩
    refine ⟨List.takeWhile_append_dropWhile.symm, fun c mem => List.mem_takeWhile_imp mem, ?_⟩
    intro c mem
    have stop := List.head?_dropWhile_not p text
    rw [Option.mem_def.1 mem] at stop
    exact stop

theorem longestRun_takeWhile (p : Char → Bool) (text : List Char) :
    LongestRun p text (text.takeWhile p) (text.dropWhile p) :=
  longestRun_iff.2 ⟨rfl, rfl⟩

/-- The digits of a literal without its sign, in front of what follows them. -/
inductive Magnitude : (text literal : List Char) → Prop
  | whole {text digits rest : List Char} (row : LongestRun Char.isDigit text digits rest)
      (nonempty : digits ≠ []) (plain : ∀ c after, rest = '.' :: c :: after → c.isDigit = false) :
      Magnitude text digits
  | pointed {text digits behind places rest : List Char}
      (row : LongestRun Char.isDigit text digits ('.' :: behind)) (nonempty : digits ≠ [])
      (fraction : LongestRun Char.isDigit behind places rest) (more : places ≠ []) :
      Magnitude text (digits ++ '.' :: places)

/-- A text starts with a number literal. -/
inductive NumberAt : (text literal : List Char) → Prop
  | unsigned {text literal : List Char} (magnitude : Magnitude text literal) : NumberAt text literal
  | negative {text literal : List Char} (magnitude : Magnitude text literal) :
      NumberAt ('-' :: text) ('-' :: literal)

/-! ## Digits and places -/

/-- The literal with some digits and some places. -/
def written (digits places : List Char) : List Char :=
  digits ++ if places = [] then [] else '.' :: places

theorem drop_digitsOf (text : List Char) :
    text.drop (digitsOf text).length = text.dropWhile Char.isDigit :=
  calc text.drop (digitsOf text).length
      = (digitsOf text ++ text.dropWhile Char.isDigit).drop (digitsOf text).length := by
        rw [digitsOf, List.takeWhile_append_dropWhile]
    _ = text.dropWhile Char.isDigit := List.drop_left

theorem placesOf_eq_nil_iff {rest : List Char} :
    placesOf rest = [] ↔ ∀ c after, rest = '.' :: c :: after → c.isDigit = false := by
  rw [placesOf.eq_def]
  split
  · next behind =>
    cases behind with
    | nil => simp [digitsOf]
    | cons c behind => simp [digitsOf, List.takeWhile_cons]
  · next other =>
    refine iff_of_true rfl fun c after rest => ?_
    exact (other _ rest).elim

/-- The literal at the front has the digits there and the places behind a point. -/
theorem magnitude_iff {text literal : List Char} :
    Magnitude text literal ↔ digitsOf text ≠ [] ∧
      literal = written (digitsOf text) (placesOf (text.dropWhile Char.isDigit)) := by
  constructor
  · rintro (⟨row, nonempty, plain⟩ | ⟨row, nonempty, fraction, more⟩)
    · obtain ⟨rfl, rfl⟩ := longestRun_iff.1 row
      refine ⟨nonempty, ?_⟩
      rw [placesOf_eq_nil_iff.2 plain]
      simp [written, digitsOf]
    · obtain ⟨rfl, behind⟩ := longestRun_iff.1 row
      obtain ⟨rfl, -⟩ := longestRun_iff.1 fraction
      refine ⟨nonempty, ?_⟩
      rw [← behind]
      simp only [written, placesOf, digitsOf, if_neg more]
  · rintro ⟨nonempty, rfl⟩
    have row : LongestRun Char.isDigit text (digitsOf text) (text.dropWhile Char.isDigit) :=
      longestRun_takeWhile Char.isDigit text
    by_cases places : placesOf (text.dropWhile Char.isDigit) = []
    · rw [written, if_pos places, List.append_nil]
      exact .whole row nonempty (placesOf_eq_nil_iff.1 places)
    · rw [written, if_neg places]
      rw [placesOf.eq_def] at places ⊢
      split at places
      · next behind rest =>
        rw [rest] at row
        exact .pointed row nonempty (longestRun_takeWhile _ _) places
      · exact absurd rfl places

/-! ## The value of a literal -/

theorem toNat_of_isDigit {c : Char} (h : c.isDigit = true) : 48 ≤ c.toNat ∧ c.toNat ≤ 57 := by
  simp only [Char.isDigit, ge_iff_le, Bool.and_eq_true, decide_eq_true_eq,
    UInt32.le_iff_toNat_le] at h
  exact h

theorem decimalDigit?_of_isDigit {c : Char} (h : c.isDigit = true) :
    Text.decimalDigit? c = some (c.toNat - '0'.toNat) := by
  have bounds := toNat_of_isDigit h
  rw [Text.decimalDigit?, if_pos (by omega), Text.asciiDigit?, if_pos]
  exact ⟨bounds.1, bounds.2⟩

theorem isAsciiBlank_of_isDigit {c : Char} (h : c.isDigit = true) :
    Text.isAsciiBlank c = false := by
  have bounds := toNat_of_isDigit h
  have noSpace : (c == ' ') = false := by
    rw [beq_eq_false_iff_ne]
    rintro rfl
    cases h
  have high : decide (c.toNat ≤ 0x0d) = false := decide_eq_false (by omega)
  rw [Text.isAsciiBlank, noSpace, high, Bool.and_false, Bool.or_false]

theorem isNumberBlank_of_isDigit {c : Char} (h : c.isDigit = true) :
    Binary64.isNumberBlank c = false := by
  have bounds := toNat_of_isDigit h
  have low : decide (0x7f ≤ c.toNat) = false := decide_eq_false (by omega)
  rw [Binary64.isNumberBlank, isAsciiBlank_of_isDigit h, low, Bool.false_and, Bool.or_false]

section Value

variable {digits places : List Char}

theorem digitsValue_map (ds : List Char) :
    Binary64.digitsValue (ds.map fun c => c.toNat - '0'.toNat) = natOfDigits ds := by
  rw [Binary64.digitsValue, natOfDigits, List.foldl_map]

/-- A row of digits is read up to where it stops. -/
theorem digitRunFrom_append (all : ∀ c ∈ digits, c.isDigit = true) {rest : List Char}
    (stops : ∀ inside, Binary64.digitRunFrom inside rest = ([], rest)) (inside : Bool) :
    Binary64.digitRunFrom inside (digits ++ rest) =
      (digits.map fun c => c.toNat - '0'.toNat, rest) := by
  induction digits generalizing inside with
  | nil => exact stops inside
  | cons c digits ih =>
      rw [List.forall_mem_cons] at all
      rw [List.cons_append, Binary64.digitRunFrom, decimalDigit?_of_isDigit all.1]
      simp only [ih all.2 true, List.map_cons]

/-- Nothing but the mark of an exponent starts one, and no digits go on with it. -/
theorem stops_of_exponent? {rest : List Char} {e : Int}
    (exponent : Binary64.exponent? rest = some e) :
    (∀ inside, Binary64.digitRunFrom inside rest = ([], rest)) ∧
      Binary64.places rest = ([], rest) := by
  cases rest with
  | nil => exact ⟨fun _ => rfl, rfl⟩
  | cons c cs =>
      have mark : c = 'e' ∨ c = 'E' := by
        by_contra other
        rw [Binary64.exponent?, if_neg other] at exponent
        cases exponent
      rcases mark with rfl | rfl
      · exact ⟨fun inside => by cases inside <;> rfl, rfl⟩
      · exact ⟨fun inside => by cases inside <;> rfl, rfl⟩

/-- Digits and places are read up to where an exponent, or nothing, follows. -/
theorem unsigned?_written_append (negative : Bool) (nonempty : digits ≠ [])
    (all : ∀ c ∈ digits, c.isDigit = true) (allPlaces : ∀ c ∈ places, c.isDigit = true)
    {rest : List Char} {e : Int} (exponent : Binary64.exponent? rest = some e) :
    Binary64.unsigned? negative (written digits places ++ rest) =
      some (Binary64.ofDecimal negative (natOfDigits (digits ++ places)) (e - places.length)) := by
  obtain ⟨stops, noPlaces⟩ := stops_of_exponent? exponent
  have atPoint (inside : Bool) (cs : List Char) :
      Binary64.digitRunFrom inside ('.' :: cs) = ([], '.' :: cs) := by
    cases inside <;> rfl
  have value {tail : List Char} (h : Binary64.places tail =
      (places.map (fun c => c.toNat - '0'.toNat), rest))
      (stops : ∀ inside, Binary64.digitRunFrom inside tail = ([], tail)) :
      Binary64.unsigned? negative (digits ++ tail) = some (Binary64.ofDecimal negative
        (natOfDigits (digits ++ places)) (e - places.length)) := by
    simp only [Binary64.unsigned?, Binary64.digitRun, digitRunFrom_append all stops, h,
      ← List.map_append, digitsValue_map, exponent, List.length_map]
    simp [nonempty]
  by_cases none : places = []
  · subst none
    have whole : written digits [] = digits := by rw [written, if_pos rfl, List.append_nil]
    rw [whole]
    exact value noPlaces stops
  · rw [written, if_neg none, List.append_assoc, List.cons_append]
    exact value (digitRunFrom_append allPlaces stops false) fun inside => atPoint inside _

theorem unsigned?_written (negative : Bool) (nonempty : digits ≠ [])
    (all : ∀ c ∈ digits, c.isDigit = true) (allPlaces : ∀ c ∈ places, c.isDigit = true) :
    Binary64.unsigned? negative (written digits places) =
      some (Binary64.ofDecimal negative (natOfDigits (digits ++ places))
        (-(places.length : Int))) := by
  have read := unsigned?_written_append negative nonempty all allPlaces
    (show Binary64.exponent? [] = some 0 from rfl)
  rwa [List.append_nil, Int.zero_sub] at read

theorem trim_eq_self {p : Char → Bool} {s : List Char} (front : ∀ c ∈ s.head?, p c = false)
    (back : ∀ c ∈ s.getLast?, p c = false) : Text.trim p s = s := by
  have kept {t : List Char} (h : ∀ c ∈ t.head?, p c = false) : t.dropWhile p = t := by
    cases t with
    | nil => rfl
    | cons c t => simp [h c rfl]
  rw [Text.trim, kept front, kept (by simpa using back), List.reverse_reverse]

theorem isDigit_of_getLast?_written (all : ∀ c ∈ digits, c.isDigit = true)
    (allPlaces : ∀ c ∈ places, c.isDigit = true) {c : Char}
    (h : (written digits places).getLast? = some c) : c.isDigit = true := by
  rw [written] at h
  split at h
  · rw [List.append_nil] at h
    exact all c (List.mem_of_getLast? h)
  · next more =>
    rw [List.getLast?_append_of_ne_nil _ (List.cons_ne_nil _ _),
      List.getLast?_cons_of_ne_nil more] at h
    exact allPlaces c (List.mem_of_getLast? h)

/-- No word for a number starts with a digit. -/
theorem word?_of_isDigit (negative : Bool) {d : Char} (h : d.isDigit = true) (cs : List Char) :
    Binary64.word? negative ((d :: cs).map Char.toLower) = none := by
  have bounds := toNat_of_isDigit h
  have small : d.toLower = d := by
    have noCapital : ¬ (d.val ≥ 'A'.val ∧ d.val ≤ 'Z'.val) := by
      rintro ⟨capital, -⟩
      have := UInt32.le_iff_toNat_le.1 capital
      change 65 ≤ d.toNat at this
      omega
    exact dif_neg noCapital
  have other {w : Char} {ws : List Char} (letter : w.isDigit = false) :
      String.ofList ((d :: cs).map Char.toLower) ≠ String.ofList (w :: ws) := by
    intro same
    rw [String.ofList_inj, List.map_cons, small] at same
    obtain ⟨rfl, -⟩ := List.cons.inj same
    rw [h] at letter
    cases letter
  rw [Binary64.word?]
  split
  · next same => exact absurd same (other rfl)
  · next same => exact absurd same (other rfl)
  · next same => exact absurd same (other rfl)
  · rfl

theorem sign_of_isDigit {d : Char} (h : d.isDigit = true) (cs : List Char) :
    Binary64.sign (d :: cs) = (false, d :: cs) := by
  rw [Binary64.sign.eq_def]
  split
  · next same =>
    obtain ⟨rfl, -⟩ := List.cons.inj same
    cases h
  · next same =>
    obtain ⟨rfl, -⟩ := List.cons.inj same
    cases h
  · rfl

/-- A magnitude is read behind its sign, if it starts with a digit and no blank is at its end. -/
theorem ofChars?_of_unsigned? {negative : Bool} {d : Char} {cs : List Char} {x : Binary64}
    (first : d.isDigit = true)
    (last : ∀ c ∈ (d :: cs).getLast?, Binary64.isNumberBlank c = false)
    (read : Binary64.unsigned? negative (d :: cs) = some x) :
    Binary64.ofChars? (Binary64.signMark negative ++ d :: cs) = some x := by
  cases negative with
  | false =>
      have kept : Text.trim Binary64.isNumberBlank (d :: cs) = d :: cs := by
        refine trim_eq_self ?_ last
        rintro c ⟨⟩
        exact isNumberBlank_of_isDigit first
      change Binary64.ofChars? (d :: cs) = some x
      simp only [Binary64.ofChars?, kept, sign_of_isDigit first, word?_of_isDigit _ first, read]
      rfl
  | true =>
      have kept : Text.trim Binary64.isNumberBlank ('-' :: d :: cs) = '-' :: d :: cs := by
        refine trim_eq_self ?_ last
        rintro c ⟨⟩
        rfl
      change Binary64.ofChars? ('-' :: d :: cs) = some x
      simp only [Binary64.ofChars?, kept, Binary64.sign, word?_of_isDigit _ first, read]
      rfl

/-- The number for which a literal stands as a text of its own. -/
theorem ofChars?_written (nonempty : digits ≠ []) (all : ∀ c ∈ digits, c.isDigit = true)
    (allPlaces : ∀ c ∈ places, c.isDigit = true) :
    Binary64.ofChars? (written digits places) =
        some (Binary64.ofDecimal false (natOfDigits (digits ++ places)) (-(places.length : Int))) ∧
      Binary64.ofChars? ('-' :: written digits places) =
        some (Binary64.ofDecimal true (natOfDigits (digits ++ places))
          (-(places.length : Int))) := by
  have value (negative : Bool) := unsigned?_written negative nonempty all allPlaces
  have last (c : Char) (mem : c ∈ (written digits places).getLast?) :
      Binary64.isNumberBlank c = false :=
    isNumberBlank_of_isDigit (isDigit_of_getLast?_written all allPlaces mem)
  obtain ⟨d, ds, rfl⟩ := List.exists_cons_of_ne_nil nonempty
  have first : d.isDigit = true := all d List.mem_cons_self
  generalize tail : written (d :: ds) places = literal at value last ⊢
  obtain ⟨rest, rfl⟩ : ∃ rest, literal = d :: rest := ⟨_, tail.symm⟩
  have unsigned := ofChars?_of_unsigned? first last (value false)
  have negative := ofChars?_of_unsigned? first last (value true)
  rw [Binary64.signMark, if_neg Bool.false_ne_true, List.nil_append] at unsigned
  rw [Binary64.signMark, if_pos rfl, List.singleton_append] at negative
  exact ⟨unsigned, negative⟩

end Value

/-! ## The number at the front of a text -/

theorem isDigit_of_mem_digitsOf {text : List Char} : ∀ c ∈ digitsOf text, c.isDigit = true :=
  fun _ mem => List.mem_takeWhile_imp mem

theorem isDigit_of_mem_placesOf (rest : List Char) : ∀ c ∈ placesOf rest, c.isDigit = true := by
  rw [placesOf.eq_def]
  split
  · exact isDigit_of_mem_digitsOf
  · intro c impossible
    cases impossible

/-- The number whose digits and places stand at the front, given its sign. -/
def magnitude? (negative : Bool) (text : List Char) : Option Binary64 :=
  let places := placesOf (text.dropWhile Char.isDigit)
  if digitsOf text = [] then none
  else some (Binary64.ofDecimal negative (natOfDigits (digitsOf text ++ places))
    (-(places.length : Int)))

theorem number?_minus (text : List Char) : number? ('-' :: text) = magnitude? true text := by
  simp only [number?, magnitude?, drop_digitsOf, List.isEmpty_iff]

theorem number?_of_ne_minus {text : List Char} (h : ∀ rest, text ≠ '-' :: rest) :
    number? text = magnitude? false text := by
  have unsigned : number? text =
      let whole := digitsOf text
      if whole.isEmpty then none
      else
        let fraction := placesOf (text.drop whole.length)
        some (Binary64.ofDecimal false (natOfDigits (whole ++ fraction))
          (-(fraction.length : Int))) := by
    unfold number?
    split
    · next negative body pair =>
      split at pair
      · next rest => exact absurd rfl (h rest)
      · cases pair
        rfl
  simp only [unsigned, magnitude?, drop_digitsOf, List.isEmpty_iff]

theorem magnitude?_eq_some_iff {text : List Char} {x : Binary64} :
    (magnitude? false text = some x ↔
      ∃ literal, Magnitude text literal ∧ Binary64.ofChars? literal = some x) ∧
    (magnitude? true text = some x ↔
      ∃ literal, Magnitude text literal ∧ Binary64.ofChars? ('-' :: literal) = some x) := by
  by_cases none : digitsOf text = []
  · simp [magnitude?, magnitude_iff, none]
  · obtain ⟨unsigned, negative⟩ := ofChars?_written none isDigit_of_mem_digitsOf
      (isDigit_of_mem_placesOf (text.dropWhile Char.isDigit))
    simp [magnitude?, magnitude_iff, none, unsigned, negative]

/-- A statement takes the number for which the literal at the front stands. -/
theorem number?_eq_some_iff {text : List Char} {x : Binary64} :
    number? text = some x ↔
      ∃ literal, NumberAt text literal ∧ Binary64.ofChars? literal = some x := by
  by_cases minus : ∃ rest, text = '-' :: rest
  · obtain ⟨rest, rfl⟩ := minus
    rw [number?_minus, magnitude?_eq_some_iff.2]
    constructor
    · rintro ⟨literal, magnitude, value⟩
      exact ⟨'-' :: literal, .negative magnitude, value⟩
    · rintro ⟨literal, magnitude | magnitude, value⟩
      · exact absurd rfl (magnitude_iff.1 magnitude).1
      · exact ⟨_, magnitude, value⟩
  · rw [not_exists] at minus
    rw [number?_of_ne_minus minus, magnitude?_eq_some_iff.1]
    constructor
    · rintro ⟨literal, magnitude, value⟩
      exact ⟨literal, .unsigned magnitude, value⟩
    · rintro ⟨literal, magnitude | magnitude, value⟩
      · exact ⟨literal, magnitude, value⟩
      · exact absurd rfl (minus _)

theorem natOfDigits_eq_ofDigits (digits : List Char) :
    natOfDigits digits = Nat.ofDigits 10 (digits.reverse.map fun c => c.toNat - '0'.toNat) := by
  induction digits using List.reverseRecOn with
  | nil => rfl
  | append_singleton digits d ih =>
      rw [List.reverse_append, List.reverse_singleton, List.singleton_append, List.map_cons,
        Nat.ofDigits_cons, ← ih, natOfDigits, List.foldl_append]
      exact Nat.add_comm _ _

end Statement

end Wireform
