import Wireform.Gcode.Machine
import Wireform.Proofs.Gcode.Word

/-!
The blocks of a flat program.

Between instructions the pin is lowered, so all that an instruction depends on is the angle of the
last bend. `Emits` lists what an instruction can become, `EmitsAll` what the instructions of a
program become one after the other, and `generate_of_flat` says that a flat program becomes the
preamble and those blocks, each with an empty line behind it.
-/

namespace Wireform

/-- The instructions other than comments. -/
def Program.withoutComments (p : Program) : Program :=
  p.filter fun i => i.command != .comment

/-- Comments can be left out where nothing is made of them. -/
theorem Program.filterMap_withoutComments {α : Type} {f : Instruction → Option α}
    (nothing : ∀ i, i.command = .comment → f i = none) (p : Program) :
    p.withoutComments.filterMap f = p.filterMap f := by
  rw [withoutComments, List.filterMap_filter]
  congr 1
  funext i
  by_cases comment : i.command = .comment
  · simp [comment, nothing i comment]
  · simp [comment]

namespace Gcode

/-- `Emits c angle i lines angle'`: with the last bend to `angle` and the pin lowered, the
instruction becomes the lines, and `angle'` is the angle of the last bend then. -/
inductive Emits (c : Settings) (angle : Binary64) : Instruction → List Line → Binary64 → Prop
  | unit {code : String} {line : Option Int} {u : LengthUnit} :
    LengthUnit.ofCode? code = some u →
    Emits c angle ⟨.unit code, line⟩ [.remark (.unitChange u), .units u] angle
  | unknownUnit {code : String} {line : Option Int} :
    LengthUnit.ofCode? code = none →
    Emits c angle ⟨.unit code, line⟩ [.remark (.unknownUnit code)] angle
  | feed {length : Binary64} {line : Option Int} :
    Emits c angle ⟨.feed length, line⟩
      [.remark (.feed length), .travel (c.clearanceFor angle), .relative,
        .feed length c.feedRate, .absolute] angle
  | bend {target : Binary64} {line : Option Int} :
    Side.of angle = Side.of target →
    Emits c angle ⟨.bend target, line⟩ [.remark (.bend target), .bend target c.bendRate] target
  | crossing {target : Binary64} {line : Option Int} :
    Side.of angle ≠ Side.of target →
    Emits c angle ⟨.bend target, line⟩
      [.remark .duck, .pin c.pinRaised, .remark (.clear (Side.of target)),
        .travel (c.clearanceFor target), .remark .unduck, .pin c.pinLowered,
        .bend target c.bendRate] target

/-- The instructions of a program become the blocks of lines, each behind the ones before it. -/
inductive EmitsAll (c : Settings) : Binary64 → Program → List (List Line) → Prop
  | nil {angle : Binary64} : EmitsAll c angle [] []
  | cons {angle angle' : Binary64} {i : Instruction} {p : Program} {lines : List Line}
      {blocks : List (List Line)} :
    Emits c angle i lines angle' → EmitsAll c angle' p blocks →
    EmitsAll c angle (i :: p) (lines :: blocks)

variable {c : Settings} {angle angle' : Binary64} {i : Instruction} {lines : List Line}

theorem Emits.ne_nil (emits : Emits c angle i lines angle') : lines ≠ [] := by
  cases emits <;> exact List.cons_ne_nil _ _

theorem Emits.not_mem_blank (emits : Emits c angle i lines angle') : Line.blank ∉ lines := by
  cases emits <;> simp

/-- What holds of the texts that an instruction can become holds of each block of texts. -/
theorem EmitsAll.forall_mem_texts {p : Program} {blocks : List (List Line)}
    {P : List String → Prop} (all : EmitsAll c angle p blocks)
    (each : ∀ {angle i lines angle'}, Emits c angle i lines angle' → P (lines.map Line.text)) :
    ∀ block ∈ blocks.map (List.map Line.text), P block := by
  induction all with
  | nil => simp
  | cons first _ ih =>
      rw [List.map_cons, List.forall_mem_cons]
      exact ⟨each first, ih⟩

/-! ## The machine between instructions -/

theorem bendBlock_of_same {target : Binary64} (same : Side.of angle = Side.of target)
    (line : Option Int) :
    Machine.bendBlock c ⟨angle, false⟩ target line =
      ({ lines := [.remark (.bend target), .bend target c.bendRate] }, false) :=
  if_pos same

theorem bendBlock_of_crossing {target : Binary64} (crosses : Side.of angle ≠ Side.of target)
    (line : Option Int) :
    Machine.bendBlock c ⟨angle, false⟩ target line =
      ({ lines := [.remark .duck, .pin c.pinRaised, .remark (.clear (Side.of target)),
          .travel (c.clearanceFor target), .remark .unduck, .pin c.pinLowered,
          .bend target c.bendRate]
         notices := [.sideChange (Side.of target) line] }, false) :=
  if_neg crosses

/-- An instruction that is no comment becomes the lines that `Emits` gives it, and the pin is
lowered behind them. -/
theorem emit_of_flat (angle : Binary64) (flat : i.command.isFlat = true)
    (notComment : i.command ≠ .comment) :
    ∃ block angle', (Machine.mk angle false).emit c i = .ok (block, ⟨angle', false⟩) ∧
      Emits c angle i block.lines angle' := by
  obtain ⟨command, line⟩ := i
  cases command with
  | unit code =>
      refine ⟨_, _, rfl, ?_⟩
      cases known : LengthUnit.ofCode? code with
      | some u =>
          rw [Machine.unitBlock, known]
          exact .unit known
      | none =>
          rw [Machine.unitBlock, known]
          exact .unknownUnit known
  | feed length => exact ⟨_, _, rfl, .feed⟩
  | bend target =>
      have emitted : (Machine.mk angle false).emit c ⟨.bend target, line⟩ =
          .ok ((Machine.bendBlock c ⟨angle, false⟩ target line).1,
            ⟨target, (Machine.bendBlock c ⟨angle, false⟩ target line).2⟩) := rfl
      by_cases same : Side.of angle = Side.of target
      · rw [bendBlock_of_same same] at emitted
        exact ⟨_, _, emitted, .bend same⟩
      · rw [bendBlock_of_crossing same] at emitted
        exact ⟨_, _, emitted, .crossing same⟩
  | comment => exact absurd rfl notComment
  | «repeat» count => cases flat
  | close => cases flat
  | unspecified => cases flat

/-- The blocks of a flat program, those of comments being empty and left out. -/
theorem blocks_of_flat (angle : Binary64) {p : Program} (flat : p.isFlat = true) :
    ∃ bs blocks, (Machine.mk angle false).blocks c p = (bs, none) ∧
      bs.flatMap Block.separated = blocks.flatMap (· ++ [.blank]) ∧
      EmitsAll c angle p.withoutComments blocks := by
  induction p generalizing angle with
  | nil => exact ⟨[], [], rfl, rfl, .nil⟩
  | cons i p ih =>
      rw [Program.isFlat, List.all_cons, Bool.and_eq_true] at flat
      obtain ⟨flat, flatRest⟩ := flat
      by_cases comment : i.command = .comment
      · -- A comment has a block without lines, and no empty line stands behind such a block.
        obtain ⟨bs, blocks, run, text, emits⟩ := ih angle flatRest
        have emitted : (Machine.mk angle false).emit c i = .ok (⟨[], []⟩, ⟨angle, false⟩) := by
          rw [Machine.emit, comment]
        refine ⟨⟨[], []⟩ :: bs, blocks, ?_, text, ?_⟩
        · simp only [Machine.blocks, emitted, run]
        · rwa [Program.withoutComments, List.filter_cons_of_neg (by simp [comment])]
      · obtain ⟨block, angle', emitted, emits⟩ := emit_of_flat (c := c) angle flat comment
        obtain ⟨bs, blocks, run, text, emitsRest⟩ := ih angle' flatRest
        refine ⟨block :: bs, block.lines :: blocks, ?_, ?_, ?_⟩
        · simp only [Machine.blocks, emitted, run]
        · have separated : block.separated = block.lines ++ [.blank] := by
            rw [Block.separated, if_neg (by simpa using emits.ne_nil)]
          rw [List.flatMap_cons, List.flatMap_cons, separated, text]
        · rw [Program.withoutComments, List.filter_cons_of_pos (by simpa using comment)]
          exact .cons emits emitsRest

/-- The texts of blocks with an empty line behind each are blocks of texts with an empty text behind
each. -/
theorem map_text_flatMap (blocks : List (List Line)) :
    (blocks.flatMap (· ++ [.blank])).map Line.text =
      (blocks.map (List.map Line.text)).flatMap (· ++ [""]) := by
  induction blocks with
  | nil => rfl
  | cons lines blocks ih => simp [ih, Line.text]

/-- A flat program becomes the preamble and a block for each instruction other than a comment, with
an empty line behind each block. -/
theorem generate_eq_blocks {p : Program} (flat : p.isFlat = true) :
    ∃ blocks, generate c p = .ok (Machine.preamble ++ blocks.flatMap (· ++ [.blank])) ∧
      EmitsAll c .zero p.withoutComments blocks := by
  obtain ⟨bs, blocks, run, text, emits⟩ := blocks_of_flat (c := c) .zero flat
  refine ⟨blocks, ?_, emits⟩
  rw [generate, Machine.initial, run]
  simp only [text, Machine.closing, List.append_nil]

/-- The same, as text. -/
theorem generate_of_flat {p : Program} (flat : p.isFlat = true) :
    ∃ lines blocks, generate c p = .ok lines ∧ EmitsAll c .zero p.withoutComments blocks ∧
      lines.map Line.text = Machine.preamble.map Line.text ++
        (blocks.map (List.map Line.text)).flatMap (· ++ [""]) := by
  obtain ⟨blocks, generated, emits⟩ := generate_eq_blocks (c := c) flat
  refine ⟨_, blocks, generated, emits, ?_⟩
  rw [List.map_append, map_text_flatMap]

/-! ## Where a line comes from -/

section Origin

variable {p : Program} {blocks : List (List Line)}

theorem EmitsAll.exists_of_mem_blocks (all : EmitsAll c angle p blocks) {block : List Line}
    (mem : block ∈ blocks) :
    ∃ before i after, i ∈ p ∧ Emits c before i block after := by
  induction all with
  | nil => cases mem
  | cons first _ ih =>
      rcases List.mem_cons.1 mem with rfl | mem
      · exact ⟨_, _, _, List.mem_cons_self, first⟩
      · obtain ⟨before, i, after, member, emits⟩ := ih mem
        exact ⟨before, i, after, List.mem_cons_of_mem _ member, emits⟩

theorem EmitsAll.exists_of_mem (all : EmitsAll c angle p blocks) {i : Instruction}
    (mem : i ∈ p) :
    ∃ before block after, block ∈ blocks ∧ Emits c before i block after := by
  induction all with
  | nil => cases mem
  | cons first _ ih =>
      rcases List.mem_cons.1 mem with rfl | mem
      · exact ⟨_, _, _, List.mem_cons_self, first⟩
      · obtain ⟨before, block, after, member, emits⟩ := ih mem
        exact ⟨before, block, after, List.mem_cons_of_mem _ member, emits⟩

/-- A line of a flat program stands in the preamble, is empty, or comes from an instruction. -/
theorem exists_emits_of_mem (flat : p.isFlat = true) (generated : generate c p = .ok lines)
    {l : Line} (mem : l ∈ lines) :
    l ∈ Machine.preamble ∨ l = .blank ∨
      ∃ before i block after, i ∈ p ∧ Emits c before i block after ∧ l ∈ block := by
  obtain ⟨blocks, generated', all⟩ := generate_eq_blocks (c := c) flat
  rw [generated] at generated'
  cases generated'
  rcases List.mem_append.1 mem with mem | mem
  · exact .inl mem
  · obtain ⟨block, member, mem⟩ := List.mem_flatMap.1 mem
    rcases List.mem_append.1 mem with mem | mem
    · obtain ⟨before, i, after, source, emits⟩ := all.exists_of_mem_blocks member
      exact .inr (.inr ⟨before, i, block, after, (List.mem_filter.1 source).1, emits, mem⟩)
    · exact .inr (.inl (List.mem_singleton.1 mem))

/-- All that an instruction of a flat program becomes is among its lines. -/
theorem exists_emits_of_mem_program (flat : p.isFlat = true) (generated : generate c p = .ok lines)
    {i : Instruction} (mem : i ∈ p) (notComment : i.command ≠ .comment) :
    ∃ before block after, Emits c before i block after ∧ ∀ l ∈ block, l ∈ lines := by
  obtain ⟨blocks, generated', all⟩ := generate_eq_blocks (c := c) flat
  rw [generated] at generated'
  cases generated'
  have kept : i ∈ p.withoutComments := List.mem_filter.2 ⟨mem, by simpa using notComment⟩
  obtain ⟨before, block, after, member, emits⟩ := all.exists_of_mem kept
  refine ⟨before, block, after, emits, fun l inBlock => ?_⟩
  refine List.mem_append_right _ (List.mem_flatMap.2 ⟨block, member, ?_⟩)
  exact List.mem_append_left _ inBlock

end Origin

/-! ## Blocks as text -/

/-- Texts that stand together: there is one, and none is empty. -/
structure IsBlock (block : List String) : Prop where
  ne_nil : block ≠ []
  unbroken : "" ∉ block

theorem Emits.isBlock (emits : Emits c angle i lines angle') : IsBlock (lines.map Line.text) where
  ne_nil := by simpa using emits.ne_nil
  unbroken := by
    intro mem
    obtain ⟨l, hl, text⟩ := List.mem_map.1 mem
    obtain rfl := (Line.text_eq_iff (m := .blank) Line.eq_of_word_blank).1 text
    exact emits.not_mem_blank hl

end Gcode

end Wireform
