import Wireform.Proofs.Gcode.Block

/-!
Positions on `X` and `Y` in a G-code text.

`coordinates` reads a text line by line and lists the positions that its words name. No line has a
line end in it unless a unit code brought one, so the lines of a rendered program are read back as
they were (`coordinates_render`). A position is one of the two clearances or a number of the program,
and all numbers of the program are among the positions.
-/

namespace Wireform

/-- The number that a command takes. -/
def Command.amount? : Command → Option Binary64
  | .feed x => some x
  | .bend x => some x
  | _ => none

namespace Gcode

/-- The position on `X` or `Y` that a word names. -/
def Word.coordinate? : Word → Option String
  | .rapid axis target => if axis = 'X' ∨ axis = 'Y' then some target else none
  | .move axis target _ => if axis = 'X' ∨ axis = 'Y' then some target else none
  | _ => none

/-- The positions on `X` and `Y` that a G-code text names, in order. -/
def coordinates (gcode : String) : List String :=
  (gcode.toList.splitOn '\n').filterMap fun line => (Word.ofChars line).coordinate?

/-! ## Lines in one text -/

theorem newline_not_mem_append {s s' : String} (left : '\n' ∉ s.toList)
    (right : '\n' ∉ s'.toList) : '\n' ∉ (s ++ s').toList := by
  rw [String.toList_append, List.mem_append, not_or]
  exact ⟨left, right⟩

theorem Remark.newline_not_mem_text {r : Remark} (known : ∀ code, r ≠ .unknownUnit code) :
    '\n' ∉ r.text.toList := by
  cases r with
  | unknownUnit code => exact absurd rfl (known code)
  | unitChange u => cases u <;> decide +kernel
  | clear side => cases side <;> decide +kernel
  | feed length => exact newline_not_mem_append (by decide) (Binary64.not_mem_fixed rfl 3 _)
  | bend angle =>
      exact newline_not_mem_append
        (newline_not_mem_append (by decide) (Binary64.not_mem_compact rfl angle)) (by decide)
  | _ => decide +kernel

/-- Only a unit that is not known can bring a line end into a line. -/
theorem Line.newline_not_mem_text {l : Line} (known : ∀ code, l ≠ .remark (.unknownUnit code)) :
    '\n' ∉ l.text.toList := by
  have move (axis : String) (x r : Binary64) (plain : '\n' ∉ axis.toList) :
      '\n' ∉ (axis ++ coordinate x ++ rate r).toList :=
    newline_not_mem_append (newline_not_mem_append plain (Binary64.not_mem_fixed rfl 5 _))
      (newline_not_mem_append (by decide) (Binary64.not_mem_fixed rfl 3 r))
  cases l with
  | remark r =>
      have inner : '\n' ∉ r.text.toList :=
        Remark.newline_not_mem_text fun code same => known code (same ▸ rfl)
      exact newline_not_mem_append (newline_not_mem_append (by decide) inner) (by decide)
  | units u => cases u <;> decide
  | travel x => exact newline_not_mem_append (by decide) (Binary64.not_mem_fixed rfl 5 _)
  | pin z => exact newline_not_mem_append (by decide) (Binary64.not_mem_compact rfl z)
  | feed y r => exact move "G1Y" y r (by decide)
  | bend x r => exact move "G1X" x r (by decide)
  | _ => decide

/-- The positions in a rendered program are those of its lines. -/
theorem coordinates_render {lines : List Line} (nonempty : lines ≠ [])
    (known : ∀ l ∈ lines, ∀ code, l ≠ .remark (.unknownUnit code)) :
    coordinates (render lines) = lines.filterMap fun l => l.word.coordinate? := by
  have parts : (render lines).toList.splitOn '\n' = lines.map fun l => l.text.toList := by
    rw [render, String.toList_intercalate, List.map_map]
    refine List.splitOn_intercalate '\n' ?_ (by simpa using nonempty)
    intro text mem
    obtain ⟨l, member, rfl⟩ := List.mem_map.1 mem
    exact Line.newline_not_mem_text (known l member)
  rw [coordinates, parts, List.filterMap_map]
  congr 1
  funext l
  exact congrArg Word.coordinate? (Word.read_text l)

/-! ## Positions and numbers -/

/-- Three kinds of lines name a position. -/
theorem Line.coordinate_cases {l : Line} {target : String}
    (named : l.word.coordinate? = some target) :
    ∃ x, target = coordinate x ∧ (l = .travel x ∨ (∃ r, l = .feed x r) ∨ ∃ r, l = .bend x r) := by
  cases l with
  | travel x =>
      cases named
      exact ⟨x, rfl, .inl rfl⟩
  | feed y r =>
      cases named
      exact ⟨y, rfl, .inr (.inl ⟨r, rfl⟩)⟩
  | bend x r =>
      cases named
      exact ⟨x, rfl, .inr (.inr ⟨r, rfl⟩)⟩
  | remark r => cases r <;> cases named
  | _ => cases named

section Emits

variable {c : Settings} {before after : Binary64} {i : Instruction} {block : List Line}

theorem clearanceFor_cases (c : Settings) (angle : Binary64) :
    c.clearanceFor angle = c.negativeClearance ∨ c.clearanceFor angle = c.positiveClearance := by
  unfold Settings.clearanceFor
  split
  · exact .inl rfl
  · exact .inr rfl

/-- The head travels to clearances. -/
theorem Emits.travel_eq (emits : Emits c before i block after) {x : Binary64}
    (mem : Line.travel x ∈ block) : x = c.negativeClearance ∨ x = c.positiveClearance := by
  have clears : ∃ angle, x = c.clearanceFor angle := by
    cases emits with
    | feed => exact ⟨_, by simpa using mem⟩
    | crossing => exact ⟨_, by simpa using mem⟩
    | _ => simp at mem
  obtain ⟨angle, rfl⟩ := clears
  exact clearanceFor_cases c angle

/-- The wire is fed and bent by the number of the instruction. -/
theorem Emits.amount?_eq (emits : Emits c before i block after) {x r : Binary64}
    (mem : Line.feed x r ∈ block ∨ Line.bend x r ∈ block) : i.command.amount? = some x := by
  cases emits with
  | feed =>
      obtain ⟨rfl, -⟩ : x = _ ∧ r = _ := by simpa using mem
      rfl
  | bend =>
      obtain ⟨rfl, -⟩ : x = _ ∧ r = _ := by simpa using mem
      rfl
  | crossing =>
      obtain ⟨rfl, -⟩ : x = _ ∧ r = _ := by simpa using mem
      rfl
  | _ => simp at mem

/-- The number of an instruction is among the positions in its block. -/
theorem Emits.exists_coordinate (emits : Emits c before i block after) {x : Binary64}
    (number : i.command.amount? = some x) :
    ∃ l ∈ block, l.word.coordinate? = some (coordinate x) := by
  cases emits with
  | unit => cases number
  | unknownUnit => cases number
  | feed =>
      cases number
      exact ⟨.feed _ c.feedRate, by simp, rfl⟩
  | bend =>
      cases number
      exact ⟨.bend _ c.bendRate, by simp, rfl⟩
  | crossing =>
      cases number
      exact ⟨.bend _ c.bendRate, by simp, rfl⟩

/-- An instruction whose unit is known has no remark about one that is not. -/
theorem Emits.not_mem_unknownUnit (emits : Emits c before i block after)
    (known : ∀ code, i.command = .unit code → ∃ u, LengthUnit.ofCode? code = some u)
    (code : String) : Line.remark (.unknownUnit code) ∉ block := by
  cases emits with
  | unknownUnit none =>
      obtain ⟨u, some⟩ := known _ rfl
      rw [none] at some
      cases some
  | _ => simp

end Emits

section Program

variable {c : Settings} {p : Program} {lines : List Line}

theorem coordinates_of_generate (flat : p.isFlat = true) (generated : generate c p = .ok lines)
    (known : ∀ i ∈ p, ∀ code, i.command = .unit code → ∃ u, LengthUnit.ofCode? code = some u) :
    coordinates (render lines) = lines.filterMap fun l => l.word.coordinate? := by
  refine coordinates_render ?_ fun l mem code => ?_
  · obtain ⟨blocks, generated', -⟩ := generate_eq_blocks (c := c) flat
    rw [generated] at generated'
    cases generated'
    exact List.append_ne_nil_of_left_ne_nil (List.cons_ne_nil _ _) _
  · rintro rfl
    rcases exists_emits_of_mem flat generated mem with preamble | blank | origin
    · simp [Machine.preamble] at preamble
    · cases blank
    · obtain ⟨before, i, block, after, member, emits, inBlock⟩ := origin
      exact emits.not_mem_unknownUnit (known i member) code inBlock

theorem travel_eq (flat : p.isFlat = true) (generated : generate c p = .ok lines) {x : Binary64}
    (mem : Line.travel x ∈ lines) : x = c.negativeClearance ∨ x = c.positiveClearance := by
  rcases exists_emits_of_mem flat generated mem with preamble | blank | origin
  · simp [Machine.preamble] at preamble
  · cases blank
  · obtain ⟨before, i, block, after, -, emits, inBlock⟩ := origin
    exact emits.travel_eq inBlock

theorem amount?_eq (flat : p.isFlat = true) (generated : generate c p = .ok lines) {l : Line}
    {x r : Binary64} (mem : l ∈ lines) (works : l = .feed x r ∨ l = .bend x r) :
    ∃ i ∈ p, i.command.amount? = some x := by
  rcases exists_emits_of_mem flat generated mem with preamble | rfl | origin
  · rcases works with rfl | rfl <;> simp [Machine.preamble] at preamble
  · rcases works with blank | blank <;> cases blank
  · obtain ⟨before, i, block, after, member, emits, inBlock⟩ := origin
    refine ⟨i, member, emits.amount?_eq (r := r) ?_⟩
    rcases works with rfl | rfl
    · exact .inl inBlock
    · exact .inr inBlock

/-- The positions that the lines of a flat program name are the numbers in the program, and where
the head travels to. -/
theorem exists_coordinate_iff (flat : p.isFlat = true) (generated : generate c p = .ok lines)
    (target : String) :
    (∃ l ∈ lines, l.word.coordinate? = some target) ↔
      (∃ i ∈ p, ∃ x, i.command.amount? = some x ∧ target = coordinate x) ∨
        ∃ x, Line.travel x ∈ lines ∧ target = coordinate x := by
  constructor
  · rintro ⟨l, mem, named⟩
    obtain ⟨x, rfl, rfl | ⟨r, rfl⟩ | ⟨r, rfl⟩⟩ := Line.coordinate_cases named
    · exact .inr ⟨x, mem, rfl⟩
    · obtain ⟨i, member, number⟩ := amount?_eq flat generated mem (.inl rfl)
      exact .inl ⟨i, member, x, number, rfl⟩
    · obtain ⟨i, member, number⟩ := amount?_eq flat generated mem (.inr rfl)
      exact .inl ⟨i, member, x, number, rfl⟩
  · rintro (⟨i, mem, x, number, rfl⟩ | ⟨x, mem, rfl⟩)
    · have notComment : i.command ≠ .comment := by
        intro comment
        rw [comment] at number
        cases number
      obtain ⟨before, block, after, emits, inside⟩ :=
        exists_emits_of_mem_program flat generated mem notComment
      obtain ⟨l, inBlock, named⟩ := emits.exists_coordinate number
      exact ⟨l, inside l inBlock, named⟩
    · exact ⟨_, mem, rfl⟩

/-- The positions in the G-code of a flat program with known units: they are clearances and numbers
of the program, and all its numbers are there. -/
theorem coordinates_generate (flat : p.isFlat = true) (generated : generate c p = .ok lines)
    (known : ∀ i ∈ p, ∀ code, i.command = .unit code → ∃ u, LengthUnit.ofCode? code = some u) :
    (∀ target ∈ coordinates (render lines), ∃ x, target = coordinate x ∧
      (x = c.negativeClearance ∨ x = c.positiveClearance ∨
        ∃ i ∈ p, i.command.amount? = some x)) ∧
    ∀ i ∈ p, ∀ x, i.command.amount? = some x →
      coordinate x ∈ coordinates (render lines) := by
  rw [coordinates_of_generate flat generated known]
  constructor
  · intro target mem
    rcases (exists_coordinate_iff flat generated target).1 (List.mem_filterMap.1 mem) with
      ⟨i, source, x, number, rfl⟩ | ⟨x, travels, rfl⟩
    · exact ⟨x, rfl, .inr (.inr ⟨i, source, number⟩)⟩
    · rcases travel_eq flat generated travels with neg | pos
      · exact ⟨x, rfl, .inl neg⟩
      · exact ⟨x, rfl, .inr (.inl pos)⟩
  · intro i mem x number
    refine List.mem_filterMap.2 ((exists_coordinate_iff flat generated _).2 ?_)
    exact .inl ⟨i, mem, x, number, rfl⟩

end Program

/-! ## Positions as text -/

theorem isFinite_unsignedZero (x : Binary64) : x.unsignedZero.isFinite = x.isFinite := by
  unfold Binary64.unsignedZero
  split
  · next zero =>
    cases x with
    | finite => rfl
    | nan => cases zero
    | infinite => cases zero
  · rfl

theorem isPlain_coordinate_iff {x : Binary64} :
    Binary64.IsPlain 5 (coordinate x).toList ↔ x.isFinite = true := by
  rw [coordinate, Binary64.isPlain_fixed_iff, isFinite_unsignedZero]

/-- A position that is a number at all is plain or infinite. -/
theorem coordinate_plain_or_infinite {x : Binary64} (defined : x ≠ .nan) :
    Binary64.IsPlain 5 (coordinate x).toList ∨ coordinate x = "inf" ∨ coordinate x = "-inf" := by
  cases x with
  | nan => exact absurd rfl defined
  | finite => exact .inl (isPlain_coordinate_iff.2 rfl)
  | infinite negative =>
      cases negative with
      | false => exact .inr (.inl rfl)
      | true => exact .inr (.inr rfl)

end Gcode

end Wireform
