import Wireform.Proofs.Program.Literal

/-!
How a line is recognised.

Each rule has a shape, said here without reference to how it is looked for: which texts have it at
the front, given the character before them, and which command it makes. A line is decided by the
first rule whose shape occurs anywhere on it, and by the leftmost place where it does.

* `Rule.At`: the shapes.
* `Rule.shape_eq_some_iff`: the search at one place finds the shape that is there.
* `Rule.leftmost_eq_some_iff`: the search of a line finds the leftmost occurrence.
* `recognise_of_finds`, `recognise_of_no_rule`: what a line is decided to be.
-/

namespace Wireform

namespace Statement

/-- The statements that a line can make. -/
inductive Rule where
  | bend
  | feed
  | unit
  | «repeat»
  | close
  | comment
  deriving DecidableEq

/-- The rules in the order in which they are tried. -/
def Rule.order : List Rule :=
  [.bend, .feed, .unit, .repeat, .close, .comment]

/-- One or more blanks. -/
def Blanks (cs : List Char) : Prop :=
  cs ≠ [] ∧ ∀ c ∈ cs, Text.isAsciiBlank c = true

/-- A text has the shape of a rule at its front, behind a character or at the front of the line, and
makes a command, or has a count with too many digits. -/
inductive Rule.At (before : Option Char) : Rule → List Char → Except Nat Command → Prop
  | bend {blanks arg literal : List Char} {x : Binary64} (apart : Blanks blanks)
      (number : NumberAt arg literal) (value : Binary64.ofChars? literal = some x) :
      At before .bend ("bend".toList ++ (blanks ++ arg)) (.ok (.bend x))
  | feed {blanks arg literal : List Char} {x : Binary64} (apart : Blanks blanks)
      (number : NumberAt arg literal) (value : Binary64.ofChars? literal = some x) :
      At before .feed ("feed".toList ++ (blanks ++ arg)) (.ok (.feed x))
  | unit {blanks rest : List Char} {word : String} {u : LengthUnit} (apart : Blanks blanks)
      (known : word ∈ ["inches", "inch", "in", "millimeters", "millimeter", "mm"])
      (whole : ∀ c ∈ rest.head?, isWordChar c = false) (value : LengthUnit.ofWord? word = some u) :
      At before .unit ("unit".toList ++ (blanks ++ (word.toList ++ rest))) (.ok (.unit u.code))
  | count {blanks digits rest : List Char} (apart : Blanks blanks) (nonempty : digits ≠ [])
      (all : ∀ c ∈ digits, c.isDigit = true) (short : digits.length ≤ 4300) :
      At before .repeat ("repeat".toList ++ (blanks ++ (digits ++ ':' :: rest)))
        (.ok (.repeat (Nat.ofDigits 10 (digits.reverse.map fun c => c.toNat - '0'.toNat))))
  | longCount {blanks digits rest : List Char} (apart : Blanks blanks)
      (all : ∀ c ∈ digits, c.isDigit = true) (long : 4300 < digits.length) :
      At before .repeat ("repeat".toList ++ (blanks ++ (digits ++ ':' :: rest)))
        (.error digits.length)
  | close {rest : List Char} (left : ∀ c ∈ before, isWordChar c = false)
      (right : ∀ c ∈ rest.head?, isWordChar c = false) :
      At before .close ("end".toList ++ rest) (.ok .close)
  | slashes {rest : List Char} : At before .comment ("//".toList ++ rest) (.ok .comment)
  | apostrophe {rest : List Char} : At before .comment ("'".toList ++ rest) (.ok .comment)

/-- Somewhere on a line a rule has its shape. -/
def Rule.Occurs (r : Rule) (s : List Char) : Prop :=
  ∃ front text found, s = front ++ text ∧ r.At front.getLast? text found

/-- What a rule finds at the leftmost place of a line where it has its shape. -/
def Rule.Finds (r : Rule) (s : List Char) (found : Except Nat Command) : Prop :=
  ∃ front text, s = front ++ text ∧ r.At front.getLast? text found ∧
    ∀ front' text', s = front' ++ text' → front'.length < front.length →
      ∀ found', ¬ r.At front'.getLast? text' found'

/-- The search for a rule's shape at one place. -/
def Rule.shape : Rule → Shape
  | .bend => Statement.bend
  | .feed => Statement.feed
  | .unit => Statement.unit
  | .repeat => Statement.repeat
  | .close => Statement.close
  | .comment => Statement.comment

/-! ## Keywords and arguments -/

theorem after?_eq_some_iff {word : String} {cs rest : List Char} :
    after? word cs = some rest ↔ cs = word.toList ++ rest := by
  rw [after?]
  split
  · next isPrefix =>
    obtain ⟨tail, rfl⟩ := List.isPrefixOf_iff_prefix.1 isPrefix
    simp [← String.length_toList, eq_comm]
  · next other =>
    refine iff_of_false (by simp) ?_
    rintro rfl
    exact other (List.isPrefixOf_iff_prefix.2 ⟨rest, rfl⟩)

theorem startsNoWord_iff {cs : List Char} :
    startsNoWord cs = true ↔ ∀ c ∈ cs.head?, isWordChar c = false := by
  cases cs <;> simp [startsNoWord]

theorem argument?_eq_some_iff {keyword : String} {cs arg : List Char} :
    argument? keyword cs = some arg ↔
      ∃ blanks, Blanks blanks ∧ cs = keyword.toList ++ (blanks ++ arg) ∧
        ∀ c ∈ arg.head?, Text.isAsciiBlank c = false := by
  constructor
  · intro h
    rw [argument?] at h
    split at h
    · next c rest found =>
      split at h
      · next blank =>
        cases h
        obtain ⟨split, all, stops⟩ := longestRun_takeWhile Text.isAsciiBlank rest
        refine ⟨c :: rest.takeWhile Text.isAsciiBlank, ⟨List.cons_ne_nil _ _, ?_⟩, ?_, stops⟩
        · exact List.forall_mem_cons.2 ⟨blank, all⟩
        · rw [after?_eq_some_iff.1 found, List.cons_append, ← split]
      · cases h
    · cases h
  · rintro ⟨blanks, ⟨nonempty, all⟩, rfl, stops⟩
    obtain ⟨c, bs, rfl⟩ := List.exists_cons_of_ne_nil nonempty
    rw [List.forall_mem_cons] at all
    have run : LongestRun Text.isAsciiBlank (bs ++ arg) bs arg := ⟨rfl, all.2, stops⟩
    have found : after? keyword (keyword.toList ++ (c :: bs ++ arg)) = some (c :: (bs ++ arg)) :=
      after?_eq_some_iff.2 rfl
    simp only [argument?, found, if_pos all.1]
    rw [← (longestRun_iff.1 run).2]

/-- A literal starts with no blank. -/
theorem NumberAt.head_not_blank {arg literal : List Char} (number : NumberAt arg literal) :
    ∀ c ∈ arg.head?, Text.isAsciiBlank c = false := by
  cases number with
  | negative => rintro c ⟨⟩; rfl
  | unsigned magnitude =>
      have digits := (magnitude_iff.1 magnitude).1
      cases arg with
      | nil => exact absurd rfl digits
      | cons d arg =>
          rintro c ⟨⟩
          have digit : d.isDigit = true := by
            by_contra other
            exact digits (by simp [digitsOf, other])
          exact isAsciiBlank_of_isDigit digit

theorem argument?_bind_number? {keyword : String} {cs : List Char} {x : Binary64} :
    (argument? keyword cs).bind number? = some x ↔
      ∃ blanks arg literal, Blanks blanks ∧ cs = keyword.toList ++ (blanks ++ arg) ∧
        NumberAt arg literal ∧ Binary64.ofChars? literal = some x := by
  rw [Option.bind_eq_some_iff]
  constructor
  · rintro ⟨arg, found, value⟩
    obtain ⟨blanks, apart, split, -⟩ := argument?_eq_some_iff.1 found
    obtain ⟨literal, number, value⟩ := number?_eq_some_iff.1 value
    exact ⟨blanks, arg, literal, apart, split, number, value⟩
  · rintro ⟨blanks, arg, literal, apart, split, number, value⟩
    refine ⟨arg, ?_, number?_eq_some_iff.2 ⟨literal, number, value⟩⟩
    exact argument?_eq_some_iff.2 ⟨blanks, apart, split, number.head_not_blank⟩

/-! ## The words for units -/

theorem mem_vocabulary_iff {word : String} :
    word ∈ ["inches", "inch", "in", "millimeters", "millimeter", "mm"] ↔
      ∃ u, (word, u) ∈ LengthUnit.vocabulary := by
  rw [show ["inches", "inch", "in", "millimeters", "millimeter", "mm"] =
    LengthUnit.vocabulary.map Prod.fst from rfl]
  simp

theorem ofWord?_of_mem_vocabulary {word : String} {u : LengthUnit}
    (h : (word, u) ∈ LengthUnit.vocabulary) : LengthUnit.ofWord? word = some u := by
  have each : ∀ entry ∈ LengthUnit.vocabulary, LengthUnit.ofWord? entry.1 = some entry.2 := by
    decide +kernel
  exact each (word, u) h

theorem isWordChar_of_mem_vocabulary {word : String} {u : LengthUnit}
    (h : (word, u) ∈ LengthUnit.vocabulary) : ∀ c ∈ word.toList, isWordChar c = true := by
  have each : (LengthUnit.vocabulary.all fun entry => entry.1.toList.all isWordChar) = true := by
    decide +kernel
  exact List.all_eq_true.1 (List.all_eq_true.1 each (word, u) h)

theorem head_not_blank_of_mem_vocabulary {word : String} {u : LengthUnit}
    (h : (word, u) ∈ LengthUnit.vocabulary) (rest : List Char) :
    ∀ c ∈ (word.toList ++ rest).head?, Text.isAsciiBlank c = false := by
  have each : ∀ entry ∈ LengthUnit.vocabulary,
      entry.1.toList ≠ [] ∧ entry.1.toList.any Text.isAsciiBlank = false := by
    decide +kernel
  obtain ⟨nonempty, letters⟩ := each (word, u) h
  rw [List.head?_append_of_ne_nil _ nonempty]
  intro c first
  exact Bool.eq_false_iff.2 (List.any_eq_false.1 letters c (List.mem_of_mem_head? first))

/-- A word stands at the front as a whole if it is the longest row of word characters there. -/
theorem after?_bind_startsNoWord {word : String} (all : ∀ c ∈ word.toList, isWordChar c = true)
    {arg : List Char} {u u' : LengthUnit} :
    ((after? word arg).bind fun rest => if startsNoWord rest then some u else none) = some u' ↔
      u = u' ∧ word.toList = arg.takeWhile isWordChar := by
  rw [Option.bind_eq_some_iff]
  constructor
  · rintro ⟨rest, found, h⟩
    split at h
    · next stops =>
      have row : LongestRun isWordChar arg word.toList rest :=
        ⟨after?_eq_some_iff.1 found, all, startsNoWord_iff.1 stops⟩
      exact ⟨Option.some.inj h, (longestRun_iff.1 row).1⟩
    · cases h
  · rintro ⟨rfl, row⟩
    obtain ⟨split, -, stops⟩ : LongestRun isWordChar arg word.toList (arg.dropWhile isWordChar) :=
      longestRun_iff.2 ⟨row, rfl⟩
    exact ⟨_, after?_eq_some_iff.2 split, if_pos (startsNoWord_iff.2 stops)⟩

theorem unitWord_eq_some_iff {arg : List Char} {u : LengthUnit} :
    (LengthUnit.vocabulary.findSome? fun (word, u) =>
        (after? word arg).bind fun rest => if startsNoWord rest then some u else none) = some u ↔
      ∃ word rest, word ∈ ["inches", "inch", "in", "millimeters", "millimeter", "mm"] ∧
        arg = word.toList ++ rest ∧ (∀ c ∈ rest.head?, isWordChar c = false) ∧
        LengthUnit.ofWord? word = some u := by
  -- An entry that is met is one for the longest row of word characters at the front.
  have met {u : LengthUnit} (h : (LengthUnit.vocabulary.findSome? fun (word, u) =>
      (after? word arg).bind fun rest => if startsNoWord rest then some u else none) = some u) :
      ∃ word, (word, u) ∈ LengthUnit.vocabulary ∧ word.toList = arg.takeWhile isWordChar := by
    obtain ⟨⟨word, u'⟩, known, found⟩ := List.exists_of_findSome?_eq_some h
    obtain ⟨rfl, row⟩ := (after?_bind_startsNoWord (isWordChar_of_mem_vocabulary known)).1 found
    exact ⟨word, known, row⟩
  constructor
  · intro h
    obtain ⟨word, known, row⟩ := met h
    obtain ⟨split, -, stops⟩ : LongestRun isWordChar arg word.toList (arg.dropWhile isWordChar) :=
      longestRun_iff.2 ⟨row, rfl⟩
    have listed := mem_vocabulary_iff.2 ⟨u, known⟩
    exact ⟨word, _, listed, split, stops, ofWord?_of_mem_vocabulary known⟩
  · rintro ⟨word, rest, listed, split, stops, value⟩
    obtain ⟨u', known⟩ := mem_vocabulary_iff.1 listed
    have all := isWordChar_of_mem_vocabulary known
    have row : word.toList = arg.takeWhile isWordChar :=
      (longestRun_iff.1 ⟨split, all, stops⟩).1
    have some : (LengthUnit.vocabulary.findSome? fun (word, u) => (after? word arg).bind fun rest =>
        if startsNoWord rest then some u else none).isSome = true := by
      rw [List.findSome?_isSome_iff]
      exact ⟨_, known, Option.isSome_iff_exists.2 ⟨u', (after?_bind_startsNoWord all).2 ⟨rfl, row⟩⟩⟩
    obtain ⟨v, first⟩ := Option.isSome_iff_exists.1 some
    obtain ⟨word', known', row'⟩ := met first
    obtain rfl : word' = word := String.toList_inj.1 (row'.trans row.symm)
    rw [first, ← value, ofWord?_of_mem_vocabulary known']

/-! ## Counts -/

/-- The digits in front of a colon. -/
theorem repeat_eq_some_iff_digits {before : Option Char} {cs : List Char}
    {found : Except Nat Command} :
    Statement.repeat before cs = some found ↔
      ∃ blanks digits rest, Blanks blanks ∧ digits ≠ [] ∧ (∀ c ∈ digits, c.isDigit = true) ∧
        cs = "repeat".toList ++ (blanks ++ (digits ++ ':' :: rest)) ∧
        found = if maxCountDigits < digits.length then .error digits.length
          else .ok (.repeat (natOfDigits digits)) := by
  rw [Statement.repeat]
  simp only [Option.bind_eq_bind, Option.bind_eq_some_iff, drop_digitsOf]
  constructor
  · rintro ⟨arg, argument, h⟩
    obtain ⟨blanks, apart, rfl, -⟩ := argument?_eq_some_iff.1 argument
    obtain ⟨split, all, -⟩ : LongestRun Char.isDigit arg (digitsOf arg)
      (arg.dropWhile Char.isDigit) := longestRun_takeWhile Char.isDigit arg
    split at h
    · next digits behind =>
      rw [behind] at split
      refine ⟨blanks, digitsOf arg, _, apart, ?_, all, by rw [← split], (Option.some.inj h).symm⟩
      rw [digits]
      exact List.cons_ne_nil _ _
    · cases h
  · rintro ⟨blanks, digits, rest, apart, nonempty, all, rfl, rfl⟩
    obtain ⟨d, ds, rfl⟩ := List.exists_cons_of_ne_nil nonempty
    have row : LongestRun Char.isDigit (d :: ds ++ ':' :: rest) (d :: ds) (':' :: rest) :=
      ⟨rfl, all, fun c mem => by cases mem; rfl⟩
    have first : ∀ c ∈ (d :: ds ++ ':' :: rest).head?, Text.isAsciiBlank c = false := by
      rintro c ⟨⟩
      exact isAsciiBlank_of_isDigit (all d List.mem_cons_self)
    refine ⟨_, argument?_eq_some_iff.2 ⟨blanks, apart, rfl, first⟩, ?_⟩
    obtain ⟨digits, behind⟩ := longestRun_iff.1 row
    rw [digitsOf, ← digits, ← behind]
    rfl

/-! ## The shapes at one place -/

section

variable {before : Option Char} {cs : List Char} {found : Except Nat Command}

theorem bend_eq_some_iff :
    Statement.bend before cs = some found ↔ Rule.At before .bend cs found := by
  rw [Statement.bend, Option.map_eq_some_iff]
  constructor
  · rintro ⟨x, h, rfl⟩
    obtain ⟨blanks, arg, literal, apart, rfl, number, value⟩ := argument?_bind_number?.1 h
    exact .bend apart number value
  · intro h
    cases h with
    | bend apart number value =>
        exact ⟨_, argument?_bind_number?.2 ⟨_, _, _, apart, rfl, number, value⟩, rfl⟩

theorem feed_eq_some_iff :
    Statement.feed before cs = some found ↔ Rule.At before .feed cs found := by
  rw [Statement.feed, Option.map_eq_some_iff]
  constructor
  · rintro ⟨x, h, rfl⟩
    obtain ⟨blanks, arg, literal, apart, rfl, number, value⟩ := argument?_bind_number?.1 h
    exact .feed apart number value
  · intro h
    cases h with
    | feed apart number value =>
        exact ⟨_, argument?_bind_number?.2 ⟨_, _, _, apart, rfl, number, value⟩, rfl⟩

theorem unit_eq_some_iff :
    Statement.unit before cs = some found ↔ Rule.At before .unit cs found := by
  rw [Statement.unit]
  simp only [Option.bind_eq_bind, Option.bind_eq_some_iff, Option.pure_def, Option.some.injEq]
  constructor
  · rintro ⟨arg, argument, u, h, rfl⟩
    obtain ⟨blanks, apart, rfl, -⟩ := argument?_eq_some_iff.1 argument
    obtain ⟨word, rest, known, rfl, stops, value⟩ := unitWord_eq_some_iff.1 h
    exact .unit apart known stops value
  · intro h
    cases h with
    | @unit blanks rest word u apart known stops value =>
        obtain ⟨u', listed⟩ := mem_vocabulary_iff.1 known
        have first := head_not_blank_of_mem_vocabulary listed rest
        exact ⟨word.toList ++ rest, argument?_eq_some_iff.2 ⟨blanks, apart, rfl, first⟩, u,
          unitWord_eq_some_iff.2 ⟨word, rest, known, rfl, stops, value⟩, rfl⟩

theorem repeat_eq_some_iff :
    Statement.repeat before cs = some found ↔ Rule.At before .repeat cs found := by
  rw [repeat_eq_some_iff_digits]
  constructor
  · rintro ⟨blanks, digits, rest, apart, nonempty, all, rfl, rfl⟩
    split
    · next long => exact .longCount apart all long
    · next short =>
      rw [natOfDigits_eq_ofDigits]
      exact .count apart nonempty all (Nat.not_lt.1 short)
  · intro h
    cases h with
    | @count blanks digits rest apart nonempty all short =>
        refine ⟨blanks, digits, rest, apart, nonempty, all, rfl, ?_⟩
        have fits : ¬ maxCountDigits < digits.length := Nat.not_lt.2 short
        rw [if_neg fits, natOfDigits_eq_ofDigits]
    | @longCount blanks digits rest apart all long =>
        have nonempty : digits ≠ [] := List.ne_nil_of_length_pos (Nat.zero_lt_of_lt long)
        exact ⟨blanks, digits, rest, apart, nonempty, all, rfl, (if_pos long).symm⟩

theorem close_eq_some_iff :
    Statement.close before cs = some found ↔ Rule.At before .close cs found := by
  have left : startsNoWord before.toList = true ↔ ∀ c ∈ before, isWordChar c = false := by
    rw [startsNoWord_iff]
    cases before <;> rfl
  rw [Statement.close]
  constructor
  · intro h
    split at h
    · next rest behind =>
      split at h
      · next apart =>
        cases h
        rw [Bool.and_eq_true] at apart
        rw [after?_eq_some_iff.1 behind]
        exact .close (left.1 apart.1) (startsNoWord_iff.1 apart.2)
      · cases h
    · cases h
  · intro h
    cases h with
    | @close rest front behind =>
        have found : after? "end" ("end".toList ++ rest) = some rest := after?_eq_some_iff.2 rfl
        simp only [found, left.2 front, startsNoWord_iff.2 behind]
        rfl

theorem comment_eq_some_iff :
    Statement.comment before cs = some found ↔ Rule.At before .comment cs found := by
  constructor
  · intro h
    unfold Statement.comment at h
    split at h
    · cases h
      exact .slashes
    · cases h
      exact .apostrophe
    · cases h
  · intro h
    cases h with
    | slashes => rfl
    | apostrophe => rfl

theorem Rule.shape_eq_some_iff (r : Rule) :
    r.shape before cs = some found ↔ r.At before cs found := by
  cases r with
  | bend => exact bend_eq_some_iff
  | feed => exact feed_eq_some_iff
  | unit => exact unit_eq_some_iff
  | «repeat» => exact repeat_eq_some_iff
  | close => exact close_eq_some_iff
  | comment => exact comment_eq_some_iff

end

/-! ## The leftmost place -/

/-- The character in front of a place, one step further on. -/
theorem getLast?_cons_or (c : Char) (front : List Char) (before : Option Char) :
    (c :: front).getLast?.or before = front.getLast?.or (some c) := by
  simp [List.getLast?_cons]

theorem leftmostFrom_eq_none_iff {shape : Shape} {before : Option Char} {s : List Char} :
    leftmostFrom shape before s = none ↔
      ∀ front text, s = front ++ text → shape (front.getLast?.or before) text = none := by
  induction s generalizing before with
  | nil =>
      constructor
      · intro h front text split
        obtain ⟨rfl, rfl⟩ := List.append_eq_nil_iff.1 split.symm
        exact h
      · intro h
        exact h [] [] rfl
  | cons c s ih =>
      rw [leftmostFrom, Option.orElse_eq_orElse, Option.orElse_eq_or, Option.or_eq_none_iff, ih]
      constructor
      · rintro ⟨here, further⟩ front text split
        rcases List.cons_eq_append_iff.1 split with ⟨rfl, rfl⟩ | ⟨front, rfl, rfl⟩
        · exact here
        · rw [getLast?_cons_or]
          exact further front text rfl
      · intro h
        refine ⟨h [] (c :: s) rfl, ?_⟩
        rintro front text rfl
        rw [← getLast?_cons_or c front before]
        exact h (c :: front) text rfl

theorem leftmostFrom_eq_some_iff {shape : Shape} {before : Option Char} {s : List Char}
    {found : Except Nat Command} :
    leftmostFrom shape before s = some found ↔
      ∃ front text, s = front ++ text ∧ shape (front.getLast?.or before) text = some found ∧
        ∀ front' text', s = front' ++ text' → front'.length < front.length →
          shape (front'.getLast?.or before) text' = none := by
  induction s generalizing before with
  | nil =>
      constructor
      · intro h
        exact ⟨[], [], rfl, h, fun _ _ _ further => absurd further (Nat.not_lt_zero _)⟩
      · rintro ⟨front, text, split, h, -⟩
        obtain ⟨rfl, rfl⟩ := List.append_eq_nil_iff.1 split.symm
        exact h
  | cons c s ih =>
      rw [leftmostFrom, Option.orElse_eq_orElse, Option.orElse_eq_or, Option.or_eq_some_iff, ih]
      -- The place is this one, or this one is passed over and counts among the earlier ones.
      constructor
      · rintro (here | ⟨notHere, front, text, rfl, h, first⟩)
        · exact ⟨[], c :: s, rfl, here, fun _ _ _ further => absurd further (Nat.not_lt_zero _)⟩
        · refine ⟨c :: front, text, rfl, ?_, ?_⟩
          · rw [getLast?_cons_or]
            exact h
          · intro front' text' split shorter
            rcases List.cons_eq_append_iff.1 split with ⟨rfl, rfl⟩ | ⟨front', rfl, behind⟩
            · exact notHere
            · rw [getLast?_cons_or]
              exact first front' text' behind (Nat.lt_of_succ_lt_succ shorter)
      · rintro ⟨front, text, split, h, first⟩
        rcases List.cons_eq_append_iff.1 split with ⟨rfl, rfl⟩ | ⟨front, rfl, rfl⟩
        · exact .inl h
        · refine .inr ⟨first [] _ rfl (Nat.succ_pos _), front, text, rfl, ?_, ?_⟩
          · rw [← getLast?_cons_or c front before]
            exact h
          · intro front' text' split' shorter
            rw [← getLast?_cons_or c front' before]
            exact first (c :: front') text' (congrArg (c :: ·) split') (Nat.succ_lt_succ shorter)

theorem Rule.shape_eq_none_iff (r : Rule) {before : Option Char} {cs : List Char} :
    r.shape before cs = none ↔ ∀ found, ¬ r.At before cs found := by
  rw [Option.eq_none_iff_forall_ne_some]
  exact forall_congr' fun found => not_congr r.shape_eq_some_iff

theorem Rule.leftmost_eq_none_iff (r : Rule) {s : List Char} :
    leftmost r.shape s = none ↔ ¬ r.Occurs s := by
  rw [leftmost, leftmostFrom_eq_none_iff]
  simp only [Option.or_none, shape_eq_none_iff, Occurs, not_exists, not_and]
  exact ⟨fun h front text found split => h front text split found,
    fun h front text split found => h front text found split⟩

theorem Rule.leftmost_eq_some_iff (r : Rule) {s : List Char} {found : Except Nat Command} :
    leftmost r.shape s = some found ↔ r.Finds s found := by
  rw [leftmost, leftmostFrom_eq_some_iff]
  simp only [Option.or_none, shape_eq_none_iff, shape_eq_some_iff, Finds]

/-! ## The first rule -/

theorem recognise_eq (s : List Char) :
    recognise s = (Rule.order.findSome? fun r => leftmost r.shape s).or
      (if s.isEmpty then some (.ok .comment) else none) := by
  rw [recognise, Option.orElse_eq_orElse, Option.orElse_eq_or,
    show rules = Rule.order.map Rule.shape from rfl, List.findSome?_map]
  rfl

theorem recognise_of_finds {earlier later : List Rule} {r : Rule} {s : List Char}
    {found : Except Nat Command} (order : Rule.order = earlier ++ r :: later)
    (passed : ∀ q ∈ earlier, ¬ q.Occurs s) (finds : r.Finds s found) :
    recognise s = some found := by
  have first : (Rule.order.findSome? fun r => leftmost r.shape s) = some found := by
    rw [List.findSome?_eq_some_iff]
    exact ⟨earlier, r, later, order, r.leftmost_eq_some_iff.2 finds,
      fun q mem => q.leftmost_eq_none_iff.2 (passed q mem)⟩
  rw [recognise_eq, first, Option.some_or]

theorem recognise_of_no_rule {s : List Char} (absent : ∀ r : Rule, ¬ r.Occurs s) :
    recognise s = if s.isEmpty then some (.ok .comment) else none := by
  have first : (Rule.order.findSome? fun r => leftmost r.shape s) = none := by
    rw [List.findSome?_eq_none_iff]
    exact fun r _ => r.leftmost_eq_none_iff.2 (absent r)
  rw [recognise_eq, first, Option.none_or]

/-- Some rule decides a line, or none occurs on it. -/
theorem finds_or_no_rule (s : List Char) :
    (∃ earlier r later found, Rule.order = earlier ++ r :: later ∧
      (∀ q ∈ earlier, ¬ q.Occurs s) ∧ r.Finds s found) ∨ ∀ r : Rule, ¬ r.Occurs s := by
  cases first : Rule.order.findSome? fun r => leftmost r.shape s with
  | some found =>
      obtain ⟨earlier, r, later, order, finds, passed⟩ := List.findSome?_eq_some_iff.1 first
      exact .inl ⟨earlier, r, later, found, order,
        fun q mem => q.leftmost_eq_none_iff.1 (passed q mem), r.leftmost_eq_some_iff.1 finds⟩
  | none =>
      have listed : ∀ r : Rule, r ∈ Rule.order := by
        intro r
        cases r <;> decide
      exact .inr fun r => r.leftmost_eq_none_iff.1 (List.findSome?_eq_none_iff.1 first r (listed r))

end Statement

end Wireform
