import Wireform.Proofs.Gcode.Pin

/-!
The same program on another machine.

Settings have no say in what a machine does next: which lines an instruction becomes, and what is
known of the machine behind it, depends on the instruction and on what was known before. So the
lines of a program for two machines go side by side. Where they differ, each shows a setting of its
own machine, and both show the same one.

* `Machine.emit_counterpart`, `Machine.blocks_counterpart`: one instruction, and a program, started
  from the same state.
* `generate_counterpart`: the lines of any program, if it has any.
-/

namespace Wireform

/-- The side whose clearance goes with an angle does not depend on the machine. -/
theorem Settings.exists_side_of_clearanceFor (angle : Binary64) :
    ∃ side, ∀ c : Settings, c.clearanceFor angle = c.clearance side := by
  by_cases low : angle.isAtMostZero = true
  · exact ⟨.negative, fun c => if_pos low⟩
  · exact ⟨.positive, fun c => if_neg low⟩

namespace Gcode

/-- Does the word take the head, the wire or the pin somewhere? -/
def Word.isMotion : Word → Bool
  | .rapid .. => true
  | .move .. => true
  | _ => false

/-- Two lines with the same place in the G-code of a program for two machines. -/
inductive Counterpart (c c' : Settings) : String → String → Prop
  /-- A line that moves nothing is the same for both. -/
  | same {line : String} (still : (Word.read line).isMotion = false) : Counterpart c c' line line
  /-- The head clears the wire on the same side. -/
  | travel (side : Side) : Counterpart c c' (clearing c side) (clearing c' side)
  | raise : Counterpart c c' ("G0Z" ++ c.pinRaised.compact) ("G0Z" ++ c'.pinRaised.compact)
  | lower : Counterpart c c' ("G0Z" ++ c.pinLowered.compact) ("G0Z" ++ c'.pinLowered.compact)
  /-- The same length is fed, each at its rate. -/
  | feed (length : Binary64) :
    Counterpart c c' ("G1Y" ++ coordinate length ++ rate c.feedRate)
      ("G1Y" ++ coordinate length ++ rate c'.feedRate)
  /-- The wire is bent to the same angle, each at its rate. -/
  | bend (angle : Binary64) :
    Counterpart c c' ("G1X" ++ coordinate angle ++ rate c.bendRate)
      ("G1X" ++ coordinate angle ++ rate c'.bendRate)

/-- Lines that are counterparts one by one. -/
abbrev Counterparts (c c' : Settings) : List Line → List Line → Prop :=
  List.Forall₂ fun l l' => Counterpart c c' l.text l'.text

variable (c c' : Settings)

theorem Counterpart.of_still {l : Line} (still : l.word.isMotion = false) :
    Counterpart c c' l.text l.text := by
  refine .same ?_
  rw [Word.read_text]
  exact still

theorem Counterpart.of_clearanceFor (angle : Binary64) :
    Counterpart c c' (Line.travel (c.clearanceFor angle)).text
      (Line.travel (c'.clearanceFor angle)).text := by
  obtain ⟨side, clears⟩ := Settings.exists_side_of_clearanceFor angle
  rw [clears c, clears c']
  exact .travel side

theorem counterparts_of_still {lines : List Line} (still : ∀ l ∈ lines, l.word.isMotion = false) :
    Counterparts c c' lines lines :=
  List.forall₂_same.2 fun l mem => .of_still c c' (still l mem)

namespace Machine

/-! ## One instruction -/

theorem duck_counterpart (force : Bool) (m : Machine) :
    Counterparts c c' (m.duck c force).1 (m.duck c' force).1 ∧
      (m.duck c force).2 = (m.duck c' force).2 := by
  unfold duck
  split
  · exact ⟨.nil, rfl⟩
  · exact ⟨.cons (.of_still c c' rfl) (.cons .raise .nil), rfl⟩

theorem unduck_counterpart (force : Bool) (m : Machine) :
    Counterparts c c' (m.unduck c force).1 (m.unduck c' force).1 ∧
      (m.unduck c force).2 = (m.unduck c' force).2 := by
  unfold unduck
  split
  · exact ⟨.nil, rfl⟩
  · exact ⟨.cons (.of_still c c' rfl) (.cons .lower .nil), rfl⟩

theorem unitBlock_counterpart (code : String) (line : Option Int) :
    Counterparts c c' (unitBlock code line).lines (unitBlock code line).lines := by
  apply counterparts_of_still
  intro l mem
  unfold unitBlock at mem
  cases known : LengthUnit.ofCode? code with
  | none =>
      rw [known] at mem
      rw [List.mem_singleton.1 mem]
      rfl
  | some u =>
      rw [known] at mem
      rcases List.mem_pair.1 mem with rfl | rfl <;> rfl

theorem bendBlock_counterpart (m : Machine) (angle : Binary64) (line : Option Int) :
    Counterparts c c' (bendBlock c m angle line).1.lines (bendBlock c' m angle line).1.lines ∧
      (bendBlock c m angle line).2 = (bendBlock c' m angle line).2 := by
  by_cases stays : Side.of m.angle = Side.of angle
  · rw [bendBlock, bendBlock, if_pos stays, if_pos stays]
    exact ⟨.cons (.of_still c c' rfl) (.cons (.bend angle) .nil), rfl⟩
  · obtain ⟨raising, up⟩ := duck_counterpart c c' false m
    obtain ⟨lowering, down⟩ := unduck_counterpart c c' false (m.duck c' false).2
    have clearing : Counterparts c c'
        [.remark (.clear (Side.of angle)), .travel (c.clearanceFor angle)]
        [.remark (.clear (Side.of angle)), .travel (c'.clearanceFor angle)] :=
      .cons (.of_still c c' rfl) (.cons (.of_clearanceFor c c' angle) .nil)
    have bending : Counterparts c c' [.bend angle c.bendRate] [.bend angle c'.bendRate] :=
      .cons (.bend angle) .nil
    simp only [bendBlock, if_neg stays, up, down]
    refine ⟨?_, trivial⟩
    exact List.rel_append (List.rel_append (List.rel_append raising clearing) lowering) bending

/-- An instruction has no lines on either machine, or it has counterparts and leaves the same
behind. -/
theorem emit_counterpart (m : Machine) (i : Instruction) :
    (∃ e, m.emit c i = .error e ∧ m.emit c' i = .error e) ∨
      ∃ b b' m', m.emit c i = .ok (b, m') ∧ m.emit c' i = .ok (b', m') ∧
        Counterparts c c' b.lines b'.lines := by
  obtain ⟨command, line⟩ := i
  cases command with
  | unit code => exact .inr ⟨_, _, m, rfl, rfl, unitBlock_counterpart c c' code line⟩
  | feed length =>
      refine .inr ⟨_, _, m, rfl, rfl, ?_⟩
      apply List.Forall₂.cons (.of_still c c' rfl)
      apply List.Forall₂.cons (.of_clearanceFor c c' m.angle)
      apply List.Forall₂.cons (.of_still c c' rfl)
      exact .cons (.feed length) (.cons (.of_still c c' rfl) .nil)
  | bend angle =>
      obtain ⟨lines, pin⟩ := bendBlock_counterpart c c' m angle line
      refine .inr ⟨_, _, ⟨angle, (bendBlock c m angle line).2⟩, rfl, ?_, lines⟩
      rw [pin]
      rfl
  | comment => exact .inr ⟨_, _, m, rfl, rfl, .nil⟩
  | «repeat» count => exact .inl ⟨_, rfl, rfl⟩
  | close => exact .inl ⟨_, rfl, rfl⟩
  | unspecified => exact .inl ⟨_, rfl, rfl⟩

/-! ## A program -/

/-- The machines go through the same states, up to the same instruction that has no lines, if there
is one. -/
theorem blocks_counterpart (m : Machine) (p : Program) :
    List.Forall₂ (fun b b' => Counterparts c c' b.lines b'.lines) (m.blocks c p).1
        (m.blocks c' p).1 ∧
      (m.blocks c p).2 = (m.blocks c' p).2 := by
  induction p generalizing m with
  | nil => exact ⟨.nil, rfl⟩
  | cons i p ih =>
      rcases emit_counterpart c c' m i with ⟨e, first, second⟩ | ⟨b, b', m', first, second, lines⟩
      · simp only [blocks, first, second]
        exact ⟨.nil, trivial⟩
      · obtain ⟨more, stop⟩ := ih m'
        simp only [blocks, first, second]
        exact ⟨.cons lines more, stop⟩

end Machine

theorem separated_counterpart {b b' : Block} (lines : Counterparts c c' b.lines b'.lines) :
    Counterparts c c' b.separated b'.separated := by
  have blank : Counterparts c c' [.blank] [.blank] := .cons (.of_still c c' rfl) .nil
  unfold Block.separated
  generalize b.lines = ls at lines ⊢
  generalize b'.lines = ls' at lines ⊢
  cases lines with
  | nil => exact .nil
  | cons first rest =>
      have whole : Counterparts c c' _ _ := .cons first rest
      exact List.rel_append whole blank

/-- A program has no lines on either machine, for the same reason, or its lines are
counterparts. -/
theorem generate_counterpart (p : Program) :
    (∃ e, generate c p = .error e ∧ generate c' p = .error e) ∨
      ∃ lines lines', generate c p = .ok lines ∧ generate c' p = .ok lines' ∧
        Counterparts c c' lines lines' := by
  obtain ⟨blocks, stop⟩ := Machine.blocks_counterpart c c' Machine.initial p
  unfold generate
  generalize Machine.initial.blocks c p = run at blocks stop ⊢
  generalize Machine.initial.blocks c' p = run' at blocks stop ⊢
  obtain ⟨bs, reason⟩ := run
  obtain ⟨bs', reason'⟩ := run'
  obtain rfl : reason = reason' := stop
  cases reason with
  | some e => exact .inl ⟨e, rfl, rfl⟩
  | none =>
      have preamble : Counterparts c c' Machine.preamble Machine.preamble :=
        counterparts_of_still c c' (by decide)
      have body : Counterparts c c' (bs.flatMap Block.separated) (bs'.flatMap Block.separated) :=
        List.rel_flatMap blocks fun b b' lines => separated_counterpart c c' lines
      refine .inr ⟨_, _, rfl, rfl, ?_⟩
      exact List.rel_append (List.rel_append preamble body) .nil

/-- The lines of a flat program for two machines are equally many, and line by line they are the
same but for the settings of each machine: where the head clears the wire, on the same side; where
the pin goes, both times to be raised or both times to be lowered; and the rates at which the same
lengths are fed and the same angles are bent. -/
theorem generate_for_other_settings (c c' : Settings) (p : Program) (flat : p.isFlat = true) :
    ∃ lines lines', generate c p = .ok lines ∧ generate c' p = .ok lines' ∧
      lines.length = lines'.length ∧
      List.Forall₂ (Counterpart c c') (lines.map Line.text) (lines'.map Line.text) := by
  obtain ⟨blocks, generated, -⟩ := generate_eq_blocks (c := c) flat
  rcases generate_counterpart c c' p with ⟨e, refused, -⟩ | ⟨lines, lines', first, second, all⟩
  · rw [generated] at refused
    cases refused
  · refine ⟨lines, lines', first, second, all.length_eq, ?_⟩
    rw [List.forall₂_map_left_iff, List.forall₂_map_right_iff]
    exact all

/-- A feed and a bend to the other side, on a machine with another rate of feeding and another
place for the raised pin. -/
theorem generate_for_other_settings_crossing :
    ∃ lines lines', generate .stock [⟨.feed (.ofInt 5), none⟩, ⟨.bend (.ofInt 90), none⟩] =
        .ok lines ∧
      generate ((Settings.stock.set .feedRate (.ofInt 90)).set .pinRaised (.ofInt 150))
        [⟨.feed (.ofInt 5), none⟩, ⟨.bend (.ofInt 90), none⟩] = .ok lines' ∧
      lines.length = lines'.length ∧
      List.Forall₂ (Counterpart .stock
        ((Settings.stock.set .feedRate (.ofInt 90)).set .pinRaised (.ofInt 150)))
        (lines.map Line.text) (lines'.map Line.text) :=
  generate_for_other_settings _ _ _ rfl

end Gcode

end Wireform
