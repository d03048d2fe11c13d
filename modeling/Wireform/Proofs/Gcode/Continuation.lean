import Wireform.Proofs.Gcode.Pin
import Wireform.Proofs.Program.BlockTree

/-!
What a program leaves to the one behind it.

Between instructions the pin is lowered, and the angle of the last bend is asked for its side alone:
by a feed, which clears the wire on that side, and by a bend, which may have to change it. So the
lines of what follows depend on what came before through the side of its last bend and nothing else.

* `Machine.emit_of_side`, `Machine.blocks_of_side`: one instruction, and a program, started on the
  same side.
* `linesFrom_append`: the lines of a program behind another.
* `linesFrom_passes`: from the second one on, all passes over a body have the same lines.
-/

namespace Wireform

/-- The angle of the last bend, if that was `angle` before the instruction. -/
def Instruction.angleAfter (i : Instruction) (angle : Binary64) : Binary64 :=
  match i.command with
  | .bend target => target
  | _ => angle

namespace Program

/-- The angle of the last bend of a program; where it has none, the one before it, at first zero. -/
def lastAngle (p : Program) (before : Binary64 := .zero) : Binary64 :=
  p.angles.getLast?.getD before

/-- A program so many times in a row. -/
def passes (n : Nat) (body : Program) : Program :=
  (List.replicate n body).flatten

theorem lastAngle_cons (i : Instruction) (p : Program) (before : Binary64) :
    lastAngle (i :: p) before = p.lastAngle (i.angleAfter before) := by
  obtain ⟨command, line⟩ := i
  cases command with
  | bend target =>
      have first : angles (⟨.bend target, line⟩ :: p) = target :: p.angles := rfl
      rw [lastAngle, first, List.getLast?_cons, Option.getD_some]
      rfl
  | _ => rfl

theorem lastAngle_append (p q : Program) (before : Binary64) :
    (p ++ q).lastAngle before = q.lastAngle (p.lastAngle before) := by
  induction p generalizing before with
  | nil => rfl
  | cons i p ih => rw [List.cons_append, lastAngle_cons, lastAngle_cons, ih]

/-- A second pass leaves the angle of the last bend as it is. -/
theorem lastAngle_lastAngle (p : Program) (before : Binary64) :
    p.lastAngle (p.lastAngle before) = p.lastAngle before := by
  unfold lastAngle
  cases p.angles.getLast? <;> rfl

theorem lastAngle_passes (body : Program) (before : Binary64) (n : Nat) :
    (passes (n + 1) body).lastAngle before = body.lastAngle before := by
  induction n with
  | zero => rw [passes, List.replicate_one, List.flatten_singleton]
  | succ n ih =>
      rw [passes, List.replicate_succ', List.flatten_append, lastAngle_append, ← passes, ih,
        List.flatten_singleton, lastAngle_lastAngle]

theorem lastAngle_mem (p : Program) (before : Binary64) :
    p.lastAngle before = before ∨ p.lastAngle before ∈ p.angles := by
  unfold lastAngle
  cases last : p.angles.getLast? with
  | none => exact .inl rfl
  | some angle => exact .inr (List.mem_of_getLast? last)

/-- Where no angle is undefined, neither is the last one. -/
theorem lastAngle_ne_nan {p : Program} (bends : ∀ i ∈ p, i.command ≠ .bend .nan) :
    p.lastAngle ≠ .nan := by
  intro undefined
  rcases p.lastAngle_mem .zero with zero | mem
  · have distinct : Binary64.zero ≠ .nan := by decide
    exact distinct (zero.symm.trans undefined)
  · rw [undefined, angles, List.mem_filterMap] at mem
    obtain ⟨i, held, angle⟩ := mem
    split at angle
    · next bend => exact bends i held (bend.trans (congrArg Command.bend (Option.some.inj angle)))
    · cases angle

theorem isFlat_append {p q : Program} :
    (p ++ q).isFlat = true ↔ p.isFlat = true ∧ q.isFlat = true := by
  rw [isFlat, List.all_append, Bool.and_eq_true]
  rfl

theorem isFlat_passes {body : Program} (flat : body.isFlat = true) (n : Nat) :
    (passes n body).isFlat = true := by
  induction n with
  | zero => rfl
  | succ n ih =>
      rw [passes, List.replicate_succ, List.flatten_cons]
      exact isFlat_append.2 ⟨flat, ih⟩

/-! ## Unrolling a flat body -/

theorem isContent_of_isFlat {command : Command} (flat : command.isFlat = true) :
    command.isContent = true := by
  cases command <;> first | rfl | cases flat

theorem forward_append_of_flat {p : Program} (flat : p.isFlat = true) (position : Nat)
    (q : Program) :
    forward [] position (p ++ q) = emitting p (forward [] (position + p.length) q) := by
  induction p generalizing position with
  | nil => simp
  | cons i p ih =>
      rw [isFlat, List.all_cons, Bool.and_eq_true] at flat
      have further : position + 1 + p.length = position + (i :: p).length := by
        rw [List.length_cons]
        omega
      rw [List.cons_append, forward_content (isContent_of_isFlat flat.1), ih flat.2, further,
        emitting_emitting, List.singleton_append]

theorem forward_of_flat {p : Program} (flat : p.isFlat = true) (position : Nat) :
    forward [] position p = .ok p := by
  have read := forward_append_of_flat flat position []
  rw [List.append_nil] at read
  rw [read, forward, emitting_ok, List.append_nil]

/-- A flat program is unrolled into itself. -/
theorem expand_of_flat {p : Program} (flat : p.isFlat = true) : p.expand = .ok p :=
  (Walk.run_eq_forward (.start p) rfl).trans (forward_of_flat flat 0)

/-- A flat program is a block tree without blocks. -/
theorem exists_blockTree_of_flat {p : Program} (flat : p.isFlat = true) :
    ∃ t : BlockTree, t.flatten = p ∧ t.live = p ∧ t.hasLiveBlock = false := by
  induction p with
  | nil => exact ⟨.nil, rfl, rfl, rfl⟩
  | cons i p ih =>
      rw [isFlat, List.all_cons, Bool.and_eq_true] at flat
      obtain ⟨t, flatten, live, quiet⟩ := ih flat.2
      refine ⟨.content i (isContent_of_isFlat flat.1) t, ?_, ?_, quiet⟩
      · rw [BlockTree.flatten, flatten]
      · rw [BlockTree.live, live]

/-- A block with a flat body between flat programs is unrolled into its passes. -/
theorem expand_repeat_of_flat {p body q : Program} (flat : p.isFlat = true)
    (flatBody : body.isFlat = true) (flatRest : q.isFlat = true) (n : Nat)
    (startLine endLine : Option Int) :
    expand (p ++ ⟨.repeat n, startLine⟩ :: (body ++ ⟨.close, endLine⟩ :: q)) =
      .ok (p ++ (passes n body ++ q)) := by
  obtain ⟨t, flatten, live, quiet⟩ := exists_blockTree_of_flat flatBody
  have once : 2 ≤ n → t.hasLiveBlock = false := fun _ => quiet
  have block := t.forward_block_of_repeatable startLine endLine (0 + p.length) q once
  rw [flatten, live, forward_of_flat flatRest, emitting_ok] at block
  have read := forward_append_of_flat flat 0
    (⟨.repeat n, startLine⟩ :: (body ++ ⟨.close, endLine⟩ :: q))
  rw [block, emitting_ok] at read
  exact (Walk.run_eq_forward (.start _) rfl).trans read

end Program

namespace Gcode

variable {c : Settings} {angle angle' : Binary64} {i : Instruction}

theorem Emits.angle_eq {lines : List Line} (emits : Emits c angle i lines angle') :
    angle' = i.angleAfter angle := by
  cases emits <;> rfl

namespace Machine

/-! ## Started on the same side -/

theorem emit_bend (c : Settings) (m : Machine) (target : Binary64) (line : Option Int) :
    m.emit c ⟨.bend target, line⟩ =
      .ok ((bendBlock c m target line).1, ⟨target, (bendBlock c m target line).2⟩) :=
  rfl

theorem bendBlock_of_side (same : Side.of angle = Side.of angle') (target : Binary64)
    (line : Option Int) :
    bendBlock c ⟨angle, false⟩ target line = bendBlock c ⟨angle', false⟩ target line := by
  by_cases stays : Side.of angle = Side.of target
  · rw [bendBlock_of_same stays, bendBlock_of_same (same.symm.trans stays)]
  · have crosses : Side.of angle' ≠ Side.of target := fun h => stays (same.trans h)
    rw [bendBlock_of_crossing stays, bendBlock_of_crossing crosses]

/-- With the last bend on the same side, an instruction has no lines in either case, or it has the
same lines, and either leaves the angle as it was or sets it to the same one. -/
theorem emit_of_side (c : Settings) (same : Side.of angle = Side.of angle')
    (defined : angle ≠ .nan) (defined' : angle' ≠ .nan) (i : Instruction) :
    (∃ e, (Machine.mk angle false).emit c i = .error e ∧
      (Machine.mk angle' false).emit c i = .error e) ∨
    (∃ b, (Machine.mk angle false).emit c i = .ok (b, ⟨angle, false⟩) ∧
      (Machine.mk angle' false).emit c i = .ok (b, ⟨angle', false⟩)) ∨
    ∃ r, (Machine.mk angle false).emit c i = .ok r ∧ (Machine.mk angle' false).emit c i = .ok r := by
  obtain ⟨command, line⟩ := i
  cases command with
  | unit code => exact .inr (.inl ⟨_, rfl, rfl⟩)
  | comment => exact .inr (.inl ⟨_, rfl, rfl⟩)
  | feed length =>
      have clears : feedBlock c ⟨angle, false⟩ length = feedBlock c ⟨angle', false⟩ length := by
        simp only [feedBlock, c.clearanceFor_eq defined, c.clearanceFor_eq defined', same]
      refine .inr (.inl ⟨_, rfl, ?_⟩)
      rw [clears]
      rfl
  | bend target =>
      refine .inr (.inr ⟨_, emit_bend c _ target line, ?_⟩)
      rw [emit_bend, bendBlock_of_side same]
  | «repeat» count => exact .inl ⟨_, rfl, rfl⟩
  | close => exact .inl ⟨_, rfl, rfl⟩
  | unspecified => exact .inl ⟨_, rfl, rfl⟩

/-- With the last bend on the same side, a program has the same blocks. -/
theorem blocks_of_side (same : Side.of angle = Side.of angle') (defined : angle ≠ .nan)
    (defined' : angle' ≠ .nan) (p : Program) :
    (Machine.mk angle false).blocks c p = (Machine.mk angle' false).blocks c p := by
  induction p with
  | nil => rfl
  | cons i p ih =>
      rcases emit_of_side c same defined defined' i with
        ⟨e, first, second⟩ | ⟨b, first, second⟩ | ⟨r, first, second⟩
      · simp only [blocks, first, second]
      · simp only [blocks, first, second, ih]
      · simp only [blocks, first, second]

/-! ## One instruction -/

/-- A flat instruction has a block and leaves the angle of the last bend and a lowered pin. -/
theorem emit_of_isFlat (c : Settings) (angle : Binary64) (flat : i.command.isFlat = true) :
    ∃ b, (Machine.mk angle false).emit c i = .ok (b, ⟨i.angleAfter angle, false⟩) := by
  by_cases comment : i.command = .comment
  · refine ⟨⟨[], []⟩, ?_⟩
    rw [emit, Instruction.angleAfter, comment]
  · obtain ⟨b, angle', emitted, emits⟩ := emit_of_flat (c := c) angle flat comment
    rw [emits.angle_eq] at emitted
    exact ⟨b, emitted⟩

/-- The lines of a block do not depend on where the instruction stands in the source. -/
theorem lines_emit_congr {j : Instruction} (same : i.command = j.command) {b b' : Block}
    {m m' : Machine} (first : (Machine.mk angle false).emit c i = .ok (b, m))
    (second : (Machine.mk angle false).emit c j = .ok (b', m')) : b.lines = b'.lines := by
  obtain ⟨command, line⟩ := i
  obtain ⟨command', line'⟩ := j
  obtain rfl : command = command' := same
  cases command with
  | unit code =>
      cases first
      cases second
      cases known : LengthUnit.ofCode? code <;> simp only [unitBlock, known]
  | feed length =>
      cases first
      cases second
      rfl
  | bend target =>
      rw [emit_bend] at first second
      by_cases stays : Side.of angle = Side.of target
      · rw [bendBlock_of_same stays] at first second
        cases first
        cases second
        rfl
      · rw [bendBlock_of_crossing stays] at first second
        cases first
        cases second
        rfl
  | comment =>
      cases first
      cases second
      rfl
  | «repeat» count => cases first
  | close => cases first
  | unspecified => cases first

end Machine

/-! ## The lines of a program behind another -/

/-- The lines of a flat program, with the last bend before it to `angle` and the pin lowered. -/
def linesFrom (c : Settings) (angle : Binary64) (p : Program) : List Line :=
  ((Machine.mk angle false).blocks c p).1.flatMap Block.separated

theorem linesFrom_cons (p : Program) {b : Block} {m : Machine}
    (emitted : (Machine.mk angle false).emit c i = .ok (b, m)) :
    linesFrom c angle (i :: p) = b.separated ++ (m.blocks c p).1.flatMap Block.separated := by
  simp only [linesFrom, Machine.blocks, emitted, List.flatMap_cons]

theorem linesFrom_of_side (same : Side.of angle = Side.of angle') (defined : angle ≠ .nan)
    (defined' : angle' ≠ .nan) (p : Program) : linesFrom c angle p = linesFrom c angle' p := by
  rw [linesFrom, Machine.blocks_of_side same defined defined', linesFrom]

theorem generate_eq_linesFrom {p : Program} (flat : p.isFlat = true) :
    generate c p = .ok (Machine.preamble ++ linesFrom c .zero p) := by
  obtain ⟨bs, blocks, run, -, -⟩ := blocks_of_flat (c := c) .zero flat
  rw [linesFrom, generate, Machine.initial, run]
  simp only [Machine.closing, List.append_nil]

/-- Behind a flat program another goes on from the angle of its last bend. -/
theorem linesFrom_append {p : Program} (flat : p.isFlat = true) (q : Program) (angle : Binary64) :
    linesFrom c angle (p ++ q) = linesFrom c angle p ++ linesFrom c (p.lastAngle angle) q := by
  induction p generalizing angle with
  | nil => rfl
  | cons i p ih =>
      rw [Program.isFlat, List.all_cons, Bool.and_eq_true] at flat
      obtain ⟨b, emitted⟩ := Machine.emit_of_isFlat c angle flat.1
      have rest := ih flat.2 (i.angleAfter angle)
      rw [List.cons_append, linesFrom_cons _ emitted, linesFrom_cons _ emitted,
        Program.lastAngle_cons, List.append_assoc]
      exact congrArg (b.separated ++ ·) rest

/-- Comments have no lines. -/
theorem linesFrom_withoutComments {p : Program} (flat : p.isFlat = true) (angle : Binary64) :
    linesFrom c angle p.withoutComments = linesFrom c angle p := by
  induction p generalizing angle with
  | nil => rfl
  | cons i p ih =>
      rw [Program.isFlat, List.all_cons, Bool.and_eq_true] at flat
      obtain ⟨b, emitted⟩ := Machine.emit_of_isFlat c angle flat.1
      have rest := ih flat.2 (i.angleAfter angle)
      by_cases comment : i.command = .comment
      · have silent : (Machine.mk angle false).emit c i = .ok (⟨[], []⟩, ⟨angle, false⟩) := by
          rw [Machine.emit, comment]
        have stays : i.angleAfter angle = angle := by
          rw [Instruction.angleAfter, comment]
        rw [Program.withoutComments, List.filter_cons_of_neg (by simp [comment]),
          linesFrom_cons _ silent]
        rw [stays] at rest
        exact rest
      · rw [Program.withoutComments, List.filter_cons_of_pos (by simpa using comment),
          linesFrom_cons _ emitted, linesFrom_cons _ emitted]
        exact congrArg (b.separated ++ ·) rest

/-- Lines depend on the commands of a program and not on where they stand in the source. -/
theorem linesFrom_of_commands {p q : Program} (flat : p.isFlat = true)
    (same : p.map (·.command) = q.map (·.command)) (angle : Binary64) :
    linesFrom c angle p = linesFrom c angle q := by
  induction p generalizing q angle with
  | nil =>
      obtain rfl := List.map_eq_nil_iff.1 same.symm
      rfl
  | cons i p ih =>
      obtain ⟨j, q, rfl, command, rest⟩ := List.map_eq_cons_iff.1 same.symm
      rw [Program.isFlat, List.all_cons, Bool.and_eq_true] at flat
      obtain ⟨b, emitted⟩ := Machine.emit_of_isFlat c angle flat.1
      obtain ⟨b', emitted'⟩ :=
        Machine.emit_of_isFlat c angle (show j.command.isFlat = true from command ▸ flat.1)
      have lines : b.lines = b'.lines := Machine.lines_emit_congr command.symm emitted emitted'
      have behind : i.angleAfter angle = j.angleAfter angle := by
        rw [Instruction.angleAfter, Instruction.angleAfter, command]
      rw [linesFrom_cons _ emitted, linesFrom_cons _ emitted', Block.separated, Block.separated,
        lines, behind]
      exact congrArg _ (ih flat.2 rest.symm _)

/-! ## Passes over a body -/

/-- Behind one pass over a body, all further passes have the same lines. -/
theorem linesFrom_passes {body : Program} (flat : body.isFlat = true) (angle : Binary64) (n : Nat) :
    linesFrom c (body.lastAngle angle) (Program.passes n body) =
      (List.replicate n (linesFrom c (body.lastAngle angle) body)).flatten := by
  induction n with
  | zero => rfl
  | succ n ih =>
      rw [Program.passes, List.replicate_succ, List.flatten_cons, linesFrom_append flat,
        Program.lastAngle_lastAngle, List.replicate_succ, List.flatten_cons]
      exact congrArg _ ih

/-- What a program contributes to the lines of the one behind it is the side of its last bend: two
flat programs with defined angles whose last bends lie on the same side are continued by the same
lines. Comments have no part in the lines of a program; and when a block is run over and over, all
its passes but the first have the same lines. -/
theorem generate_append_of_same_side (c : Settings) :
    (∀ p₁ p₂ q : Program, p₁.isFlat = true → p₂.isFlat = true → q.isFlat = true →
      (∀ i ∈ p₁, i.command ≠ .bend .nan) → (∀ i ∈ p₂, i.command ≠ .bend .nan) →
      Side.of p₁.lastAngle = Side.of p₂.lastAngle →
      ∃ lines₁ lines₂ tail, generate c p₁ = .ok lines₁ ∧ generate c p₂ = .ok lines₂ ∧
        generate c (p₁ ++ q) = .ok (lines₁ ++ tail) ∧
        generate c (p₂ ++ q) = .ok (lines₂ ++ tail)) ∧
    (∀ p p' : Program, p.isFlat = true → p'.isFlat = true →
      p.withoutComments.map (·.command) = p'.withoutComments.map (·.command) →
      generate c p = generate c p') ∧
    ∀ p body q : Program, p.isFlat = true → body.isFlat = true → q.isFlat = true →
      ∃ lines first pass rest, generate c p = .ok lines ∧
        generate c (p ++ body) = .ok (lines ++ first) ∧
        ∀ (n : Nat) (startLine endLine : Option Int),
          Program.expand (p ++ ⟨.repeat (n + 1), startLine⟩ :: (body ++ ⟨.close, endLine⟩ :: q)) =
            .ok (p ++ (Program.passes (n + 1) body ++ q)) ∧
          generate c (p ++ (Program.passes (n + 1) body ++ q)) =
            .ok (lines ++ first ++ (List.replicate n pass).flatten ++ rest) := by
  refine ⟨?_, ?_, ?_⟩
  · intro p₁ p₂ q flat₁ flat₂ flat defined₁ defined₂ same
    have side := linesFrom_of_side (c := c) same (Program.lastAngle_ne_nan defined₁)
      (Program.lastAngle_ne_nan defined₂) q
    refine ⟨_, _, linesFrom c p₁.lastAngle q, generate_eq_linesFrom flat₁,
      generate_eq_linesFrom flat₂, ?_, ?_⟩
    · rw [generate_eq_linesFrom (Program.isFlat_append.2 ⟨flat₁, flat⟩), linesFrom_append flat₁,
        List.append_assoc]
    · rw [generate_eq_linesFrom (Program.isFlat_append.2 ⟨flat₂, flat⟩), linesFrom_append flat₂,
        List.append_assoc, side]
  · intro p p' flat flat' same
    have kept : p.withoutComments.isFlat = true :=
      List.all_eq_true.2 fun i mem => List.all_eq_true.1 flat i (List.mem_of_mem_filter mem)
    rw [generate_eq_linesFrom flat, generate_eq_linesFrom flat', ← linesFrom_withoutComments flat,
      linesFrom_of_commands kept same, linesFrom_withoutComments flat']
  · intro p body q flat flatBody flatRest
    -- The first pass starts on the side that the program before the block leaves, each later one on
    -- the side that the body itself leaves.
    refine ⟨_, linesFrom c p.lastAngle body, linesFrom c (body.lastAngle p.lastAngle) body,
      linesFrom c (body.lastAngle p.lastAngle) q, generate_eq_linesFrom flat, ?_, ?_⟩
    · rw [generate_eq_linesFrom (Program.isFlat_append.2 ⟨flat, flatBody⟩), linesFrom_append flat,
        List.append_assoc]
    · intro n startLine endLine
      have flatPasses := Program.isFlat_passes flatBody (n + 1)
      have flatAll : (p ++ (Program.passes (n + 1) body ++ q)).isFlat = true :=
        Program.isFlat_append.2 ⟨flat, Program.isFlat_append.2 ⟨flatPasses, flatRest⟩⟩
      have repeated : linesFrom c p.lastAngle (Program.passes (n + 1) body) =
          linesFrom c p.lastAngle body ++
            (List.replicate n (linesFrom c (body.lastAngle p.lastAngle) body)).flatten := by
        rw [Program.passes, List.replicate_succ, List.flatten_cons, linesFrom_append flatBody,
          ← Program.passes, linesFrom_passes flatBody]
      refine ⟨Program.expand_repeat_of_flat flat flatBody flatRest _ _ _, ?_⟩
      rw [generate_eq_linesFrom flatAll, linesFrom_append flat, linesFrom_append flatPasses,
        repeated, Program.lastAngle_passes]
      simp only [List.append_assoc]

/-- A bend by a right angle, and a feed, a bend to the same side and a comment, are continued by the
same lines of a feed and a bend to the other side. -/
theorem generate_append_of_same_side_positive :
    Side.of (Program.lastAngle [⟨.bend (.ofInt 90), none⟩]) = .positive ∧
      Side.of (Program.lastAngle [⟨.feed (.ofInt 5), none⟩, ⟨.bend (.ofInt 1), none⟩,
        ⟨.comment, none⟩]) = .positive ∧
      ∃ lines₁ lines₂ tail, generate .stock [⟨.bend (.ofInt 90), none⟩] = .ok lines₁ ∧
        generate .stock [⟨.feed (.ofInt 5), none⟩, ⟨.bend (.ofInt 1), none⟩, ⟨.comment, none⟩] =
          .ok lines₂ ∧
        generate .stock [⟨.bend (.ofInt 90), none⟩, ⟨.feed (.ofInt 7), none⟩,
          ⟨.bend (.ofInt (-30)), none⟩] = .ok (lines₁ ++ tail) ∧
        generate .stock [⟨.feed (.ofInt 5), none⟩, ⟨.bend (.ofInt 1), none⟩, ⟨.comment, none⟩,
          ⟨.feed (.ofInt 7), none⟩, ⟨.bend (.ofInt (-30)), none⟩] = .ok (lines₂ ++ tail) := by
  have first : Side.of (Program.lastAngle [⟨.bend (.ofInt 90), none⟩]) = .positive := by
    decide +kernel
  have second : Side.of (Program.lastAngle [⟨.feed (.ofInt 5), none⟩, ⟨.bend (.ofInt 1), none⟩,
      ⟨.comment, none⟩]) = .positive := by
    decide +kernel
  refine ⟨first, second, ?_⟩
  exact (generate_append_of_same_side .stock).1 [⟨.bend (.ofInt 90), none⟩]
    [⟨.feed (.ofInt 5), none⟩, ⟨.bend (.ofInt 1), none⟩, ⟨.comment, none⟩]
    [⟨.feed (.ofInt 7), none⟩, ⟨.bend (.ofInt (-30)), none⟩] rfl rfl rfl
    (by decide +kernel) (by decide +kernel) (first.trans second.symm)

end Gcode

end Wireform
