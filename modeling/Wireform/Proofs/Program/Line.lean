import Wireform.Proofs.Program.Recognition

/-!
Lines of a program, from the text as it stands to the instruction on it.

The rules look at ASCII characters only and take any two others for each other. So a line is
decided as it would be in the lower case of whole words, where a sigma that ends one has a letter of
its own.

* `recognise_of_seen_eq`: lines that look the same to the rules are decided alike.
* `ofLine_iff_reads`: what the instruction on a line is, or why it has none.
-/

namespace Wireform

namespace Statement

/-- A character as the rules see it: beyond ASCII all are one. -/
def seen (c : Char) : Char :=
  if c.toNat < 0x80 then c else Char.ofNat 0x80

/-- A class of ASCII characters. -/
def AsciiClass (p : Char → Bool) : Prop :=
  ∀ c, p c = true → c.toNat < 0x80

theorem asciiClass_isDigit : AsciiClass Char.isDigit := by
  intro c digit
  have bounds := toNat_of_isDigit digit
  omega

theorem asciiClass_isAsciiBlank : AsciiClass Text.isAsciiBlank := by
  intro c blank
  simp only [Text.isAsciiBlank, Bool.or_eq_true, beq_iff_eq, Bool.and_eq_true,
    decide_eq_true_eq] at blank
  rcases blank with rfl | ⟨-, last⟩
  · decide
  · omega

theorem asciiClass_isWordChar : AsciiClass isWordChar := by
  intro c word
  have below {last : Char} (within : c.val ≤ last.val) (ascii : last.toNat < 0x80) :
      c.toNat < 0x80 := Nat.lt_of_le_of_lt (UInt32.le_iff_toNat_le.1 within) ascii
  rcases Bool.or_eq_true_iff.1 word with alphanum | underscore
  · rcases Bool.or_eq_true_iff.1 alphanum with letter | digit
    · rcases Bool.or_eq_true_iff.1 letter with upper | lower
      · have bounds : c.val ≥ 'A'.val ∧ c.val ≤ 'Z'.val := of_decide_eq_true upper
        exact below bounds.2 (by decide)
      · have bounds := Bool.and_eq_true_iff.1 lower
        exact below (of_decide_eq_true bounds.2) (by decide)
    · exact asciiClass_isDigit c digit
  · rw [beq_iff_eq.1 underscore]
    decide

theorem AsciiClass.seen {p : Char → Bool} (ascii : AsciiClass p) (c : Char) :
    p (seen c) = p c := by
  rw [Statement.seen]
  split
  · rfl
  · next beyond =>
    have outside {d : Char} (high : ¬ d.toNat < 0x80) : p d = false :=
      Bool.eq_false_iff.2 fun inside => high (ascii d inside)
    rw [outside beyond, outside (by decide)]

theorem eq_of_seen_eq {c d : Char} (ascii : c.toNat < 0x80) (h : seen c = seen d) : c = d := by
  rw [seen, seen, if_pos ascii] at h
  split at h
  · exact h
  · rw [h] at ascii
    exact absurd ascii (by decide)

/-! ## Texts that look the same -/

section

variable {s t row rest : List Char}

theorem exists_cons_of_seen_eq {c : Char} (ascii : c.toNat < 0x80)
    (h : (c :: rest).map seen = t.map seen) :
    ∃ rest', t = c :: rest' ∧ rest.map seen = rest'.map seen := by
  obtain ⟨d, rest', rfl, first, more⟩ := List.map_eq_cons_iff.1 h.symm
  obtain rfl := eq_of_seen_eq ascii first.symm
  exact ⟨rest', rfl, more.symm⟩

theorem ascii_of_all (h : row.all (·.toNat < 0x80) = true) : ∀ c ∈ row, c.toNat < 0x80 :=
  fun c mem => of_decide_eq_true (List.all_eq_true.1 h c mem)

/-- A row of ASCII characters at the front of a text is seen as itself. -/
theorem exists_append_of_seen_eq (ascii : ∀ c ∈ row, c.toNat < 0x80)
    (h : (row ++ rest).map seen = t.map seen) :
    ∃ rest', t = row ++ rest' ∧ rest.map seen = rest'.map seen := by
  induction row generalizing t with
  | nil => exact ⟨t, rfl, h⟩
  | cons c row ih =>
      rw [List.forall_mem_cons] at ascii
      obtain ⟨t', rfl, more⟩ := exists_cons_of_seen_eq ascii.1 h
      obtain ⟨rest', rfl, same⟩ := ih ascii.2 more
      exact ⟨rest', rfl, same⟩

theorem AsciiClass.forall_of_seen_eq {p : Char → Bool} (ascii : AsciiClass p) {a b : Option Char}
    (h : a.map Statement.seen = b.map Statement.seen) (all : ∀ c ∈ a, p c = false) :
    ∀ c ∈ b, p c = false := by
  rintro d rfl
  obtain ⟨c, rfl, same⟩ := Option.map_eq_some_iff.1 h
  rw [← ascii.seen d, ← same, ascii.seen c]
  exact all c rfl

theorem AsciiClass.stops_of_seen_eq {p : Char → Bool} (ascii : AsciiClass p)
    (h : s.map Statement.seen = t.map Statement.seen) (stops : ∀ c ∈ s.head?, p c = false) :
    ∀ c ∈ t.head?, p c = false := by
  refine ascii.forall_of_seen_eq ?_ stops
  rw [← List.head?_map, h, List.head?_map]

theorem LongestRun.of_seen_eq {p : Char → Bool} (run : LongestRun p s row rest)
    (ascii : AsciiClass p) (h : s.map seen = t.map seen) :
    ∃ rest', LongestRun p t row rest' ∧ rest.map seen = rest'.map seen := by
  obtain ⟨rfl, all, stops⟩ := run
  obtain ⟨rest', rfl, same⟩ := exists_append_of_seen_eq (fun c mem => ascii c (all c mem)) h
  exact ⟨rest', ⟨rfl, all, ascii.stops_of_seen_eq same stops⟩, same⟩

theorem Magnitude.of_seen_eq {literal : List Char} (magnitude : Magnitude s literal)
    (h : s.map seen = t.map seen) : Magnitude t literal := by
  cases magnitude with
  | whole run nonempty plain =>
      obtain ⟨rest', run', same⟩ := run.of_seen_eq asciiClass_isDigit h
      refine .whole run' nonempty ?_
      rintro d after' rfl
      obtain ⟨behind, rfl, same'⟩ := exists_cons_of_seen_eq (by decide) same.symm
      obtain ⟨c, after, rfl, first, -⟩ := List.map_eq_cons_iff.1 same'.symm
      rw [← asciiClass_isDigit.seen d, ← first, asciiClass_isDigit.seen c]
      exact plain c after rfl
  | pointed run nonempty fraction more =>
      obtain ⟨rest', run', same⟩ := run.of_seen_eq asciiClass_isDigit h
      obtain ⟨behind, rfl, same'⟩ := exists_cons_of_seen_eq (by decide) same
      obtain ⟨_, fraction', -⟩ := fraction.of_seen_eq asciiClass_isDigit same'
      exact .pointed run' nonempty fraction' more

theorem NumberAt.of_seen_eq {literal : List Char} (number : NumberAt s literal)
    (h : s.map seen = t.map seen) : NumberAt t literal := by
  cases number with
  | unsigned magnitude => exact .unsigned (magnitude.of_seen_eq h)
  | negative magnitude =>
      obtain ⟨t', rfl, same⟩ := exists_cons_of_seen_eq (by decide) h
      exact .negative (magnitude.of_seen_eq same)

theorem exists_argument_of_seen_eq {keyword blanks arg : List Char}
    (ascii : ∀ c ∈ keyword, c.toNat < 0x80) (apart : Blanks blanks)
    (h : (keyword ++ (blanks ++ arg)).map seen = t.map seen) :
    ∃ arg', t = keyword ++ (blanks ++ arg') ∧ arg.map seen = arg'.map seen := by
  obtain ⟨t', rfl, same⟩ := exists_append_of_seen_eq ascii h
  have blank : ∀ c ∈ blanks, c.toNat < 0x80 :=
    fun c mem => asciiClass_isAsciiBlank c (apart.2 c mem)
  obtain ⟨arg', rfl, same'⟩ := exists_append_of_seen_eq blank same
  exact ⟨arg', rfl, same'⟩

theorem exists_count_of_seen_eq {digits : List Char} (all : ∀ c ∈ digits, c.isDigit = true)
    (h : (digits ++ ':' :: rest).map seen = t.map seen) : ∃ rest', t = digits ++ ':' :: rest' := by
  obtain ⟨t', rfl, same⟩ :=
    exists_append_of_seen_eq (fun c mem => asciiClass_isDigit c (all c mem)) h
  obtain ⟨rest', rfl, -⟩ := exists_cons_of_seen_eq (by decide) same
  exact ⟨rest', rfl⟩

/-! ## What the rules find -/

/-- A shape stays where it is when the text changes to one that looks the same. -/
theorem Rule.At.of_seen_eq {before before' : Option Char} {r : Rule} {found : Except Nat Command}
    (shape : r.At before s found) (left : before.map seen = before'.map seen)
    (h : s.map seen = t.map seen) : r.At before' t found := by
  -- All of a shape but the text behind it is ASCII, so `t` has the same characters there.
  cases shape with
  | bend apart number value =>
      obtain ⟨arg, rfl, same⟩ := exists_argument_of_seen_eq (ascii_of_all rfl) apart h
      exact .bend apart (number.of_seen_eq same) value
  | feed apart number value =>
      obtain ⟨arg, rfl, same⟩ := exists_argument_of_seen_eq (ascii_of_all rfl) apart h
      exact .feed apart (number.of_seen_eq same) value
  | unit apart known whole value =>
      obtain ⟨arg, rfl, same⟩ := exists_argument_of_seen_eq (ascii_of_all rfl) apart h
      obtain ⟨u, listed⟩ := mem_vocabulary_iff.1 known
      have letters := isWordChar_of_mem_vocabulary listed
      obtain ⟨rest, rfl, same'⟩ :=
        exists_append_of_seen_eq (fun c mem => asciiClass_isWordChar c (letters c mem)) same
      exact .unit apart known (asciiClass_isWordChar.stops_of_seen_eq same' whole) value
  | count apart nonempty all short =>
      obtain ⟨arg, rfl, same⟩ := exists_argument_of_seen_eq (ascii_of_all rfl) apart h
      obtain ⟨rest, rfl⟩ := exists_count_of_seen_eq all same
      exact .count apart nonempty all short
  | longCount apart all long =>
      obtain ⟨arg, rfl, same⟩ := exists_argument_of_seen_eq (ascii_of_all rfl) apart h
      obtain ⟨rest, rfl⟩ := exists_count_of_seen_eq all same
      exact .longCount apart all long
  | close front right =>
      obtain ⟨rest, rfl, same⟩ := exists_append_of_seen_eq (ascii_of_all rfl) h
      exact .close (asciiClass_isWordChar.forall_of_seen_eq left front)
        (asciiClass_isWordChar.stops_of_seen_eq same right)
  | slashes =>
      obtain ⟨rest, rfl, -⟩ := exists_append_of_seen_eq (ascii_of_all rfl) h
      exact .slashes
  | apostrophe =>
      obtain ⟨rest, rfl, -⟩ := exists_append_of_seen_eq (ascii_of_all rfl) h
      exact .apostrophe

/-- What a rule has at one place of a line, it has there on a line that looks the same. -/
theorem Rule.At.exists_of_seen_eq {front text : List Char} {r : Rule} {found : Except Nat Command}
    (shape : r.At front.getLast? text found) (h : (front ++ text).map seen = t.map seen) :
    ∃ front' text', t = front' ++ text' ∧ front'.length = front.length ∧
      r.At front'.getLast? text' found := by
  rw [List.map_append] at h
  obtain ⟨front', text', rfl, left, right⟩ := List.map_eq_append_iff.1 h.symm
  refine ⟨front', text', rfl, by simpa using congrArg List.length left, ?_⟩
  refine shape.of_seen_eq ?_ right.symm
  rw [← List.getLast?_map, ← left, List.getLast?_map]

theorem Rule.Occurs.of_seen_eq {r : Rule} (occurs : r.Occurs s) (h : s.map seen = t.map seen) :
    r.Occurs t := by
  obtain ⟨front, text, found, rfl, shape⟩ := occurs
  obtain ⟨front', text', split, -, shape'⟩ := shape.exists_of_seen_eq h
  exact ⟨front', text', found, split, shape'⟩

theorem Rule.Finds.of_seen_eq {r : Rule} {found : Except Nat Command} (finds : r.Finds s found)
    (h : s.map seen = t.map seen) : r.Finds t found := by
  obtain ⟨front, text, rfl, shape, first⟩ := finds
  obtain ⟨front', text', split, length, shape'⟩ := shape.exists_of_seen_eq h
  refine ⟨front', text', split, shape', ?_⟩
  -- A place further left on the one line would be one on the other.
  rintro earlier behind rfl shorter found' there
  obtain ⟨earlier', behind', split', length', there'⟩ := there.exists_of_seen_eq h.symm
  exact first earlier' behind' split' (by omega) found' there'

theorem recognise_of_seen_eq (h : s.map seen = t.map seen) : recognise s = recognise t := by
  rcases finds_or_no_rule s with ⟨earlier, r, later, found, order, passed, finds⟩ | absent
  · have passed' : ∀ q ∈ earlier, ¬ q.Occurs t :=
      fun q mem occurs => passed q mem (occurs.of_seen_eq h.symm)
    rw [recognise_of_finds order passed finds,
      recognise_of_finds order passed' (finds.of_seen_eq h)]
  · have absent' : ∀ r : Rule, ¬ r.Occurs t :=
      fun r occurs => absent r (occurs.of_seen_eq h.symm)
    have empty : s.isEmpty = t.isEmpty := by
      rw [← List.isEmpty_map, h, List.isEmpty_map]
    rw [recognise_of_no_rule absent, recognise_of_no_rule absent', empty]

end

/-! ## Lines in lower case -/

/-- The text of a line without the blanks around it and in lower case. -/
def lowered (raw : List Char) : List Char :=
  (Text.lowerWords ((Text.strip raw).map .char)).map Text.CodePoint.marked

/-- A letter in lower case looks the same wherever it stands in a word. -/
theorem seen_lowerBetween (before : List Text.CodePoint) (c : Char)
    (after : List Text.CodePoint) :
    ((Text.lowerBetween before (.char c) after).map Text.CodePoint.marked).map seen =
      (Text.lowerChar c).map seen := by
  rw [Text.lowerBetween]
  split
  · next sigma =>
    rw [sigma.1]
    decide +kernel
  · simp [Text.CodePoint.marked]

theorem seen_lowerAfter (before : List Text.CodePoint) (cs : List Char) :
    ((Text.lowerAfter before (cs.map .char)).map Text.CodePoint.marked).map seen =
      (Text.lower cs).map seen := by
  induction cs generalizing before with
  | nil => rfl
  | cons c cs ih =>
      have further := ih (.char c :: before)
      rw [List.map_cons, Text.lowerAfter, List.map_append, List.map_append, seen_lowerBetween,
        further, ← List.map_append]
      rfl

theorem recognise_lower_strip (raw : List Char) :
    recognise (Text.lower (Text.strip raw)) = recognise (lowered raw) :=
  recognise_of_seen_eq (seen_lowerAfter [] (Text.strip raw)).symm

end Statement

open Statement

/-- A line makes an instruction or is refused: by the first rule that occurs on it, or, where none
does, for being blank or not. -/
inductive Reads (raw : List Char) (line : Int) : Except SourceError Instruction → Prop
  | statement {earlier later : List Rule} {r : Rule} {command : Command}
      (order : Rule.order = earlier ++ r :: later)
      (passed : ∀ q ∈ earlier, ¬ q.Occurs (lowered raw))
      (finds : r.Finds (lowered raw) (.ok command)) : Reads raw line (.ok ⟨command, some line⟩)
  | longCount {earlier later : List Rule} {r : Rule} {digits : Nat}
      (order : Rule.order = earlier ++ r :: later)
      (passed : ∀ q ∈ earlier, ¬ q.Occurs (lowered raw))
      (finds : r.Finds (lowered raw) (.error digits)) :
      Reads raw line (.error (.countTooLong digits))
  | blank (absent : ∀ r : Rule, ¬ r.Occurs (lowered raw)) (empty : lowered raw = []) :
      Reads raw line (.ok ⟨.comment, some line⟩)
  | unrecognised (absent : ∀ r : Rule, ¬ r.Occurs (lowered raw)) (text : lowered raw ≠ []) :
      Reads raw line (.error (.fault ⟨line, .unrecognised (String.ofList (Text.strip raw))⟩))

theorem Instruction.reads_ofLine (raw : List Char) (line : Int) :
    Reads raw line (ofLine raw line) := by
  rw [ofLine]
  simp only [recognise_lower_strip]
  rcases finds_or_no_rule (lowered raw) with
    ⟨earlier, r, later, found, order, passed, finds⟩ | absent
  · rw [recognise_of_finds order passed finds]
    cases found with
    | ok command => exact .statement order passed finds
    | error digits => exact .longCount order passed finds
  · rw [recognise_of_no_rule absent]
    by_cases empty : lowered raw = []
    · rw [empty]
      exact .blank absent empty
    · rw [if_neg (by rwa [List.isEmpty_iff])]
      exact .unrecognised absent empty

/-- Every line makes the one instruction, or is refused for the one reason, that the rules give. -/
theorem Instruction.ofLine_iff_reads (raw : List Char) (line : Int)
    (outcome : Except SourceError Instruction) :
    ofLine raw line = outcome ↔ Reads raw line outcome := by
  constructor
  · rintro rfl
    exact reads_ofLine raw line
  · intro reads
    rw [ofLine]
    simp only [recognise_lower_strip]
    cases reads with
    | statement order passed finds => rw [recognise_of_finds order passed finds]
    | longCount order passed finds => rw [recognise_of_finds order passed finds]
    | blank absent empty =>
        rw [recognise_of_no_rule absent, empty]
        rfl
    | unrecognised absent text =>
        rw [recognise_of_no_rule absent, if_neg (by rwa [List.isEmpty_iff])]

end Wireform
