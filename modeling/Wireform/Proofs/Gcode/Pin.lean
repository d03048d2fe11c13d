import Mathlib.Data.List.Forall2
import Wireform.Proofs.Gcode.Block

/-!
The pin while G-code is carried out.

The head may cross the wire only while the pin is raised, and nothing is fed or bent unless it is
lowered. A controller that follows the pin counts it as raised once the remark and the move that
raise it have both been met, and as lowered again once the same holds of those that lower it.

* `clearanceFor_eq`: the two tests for the side of an angle agree, save for an undefined angle.
* `Emits.keepsPin`: what one block does with the pin.
* `count_blocks`: over a program the pin is raised, and lowered, as often as the side changes.
-/

namespace Wireform

/-- Where the head clears the wire on a side. -/
def Settings.clearance (c : Settings) : Side → Binary64
  | .negative => c.negativeClearance
  | .positive => c.positiveClearance

/-- An angle lies on the positive side, or it is zero or less, or it is undefined. -/
theorem Settings.clearanceFor_eq (c : Settings) {angle : Binary64} (defined : angle ≠ .nan) :
    c.clearanceFor angle = c.clearance (Side.of angle) := by
  have tests : angle.isAtMostZero = !angle.isPositive := by
    cases angle with
    | nan => exact absurd rfl defined
    | infinite negative => simp [Binary64.isAtMostZero, Binary64.isPositive]
    | finite negative units representable =>
        simp [Binary64.isAtMostZero, Binary64.isPositive, bne]
  rw [clearanceFor, tests, Side.of]
  cases angle.isPositive <;> rfl

/-- The angles of the bends, in order. -/
def Program.angles (p : Program) : List Binary64 :=
  p.filterMap fun i =>
    match i.command with
    | .bend angle => some angle
    | _ => none

namespace Side

/-- The side of the last bend, if that was `side` before the instruction. -/
def after (side : Side) (i : Instruction) : Side :=
  match i.command with
  | .bend angle => Side.of angle
  | _ => side

/-- The instructions of a program, each with the side of the last bend before it. -/
def along (side : Side) : Program → List (Side × Instruction)
  | [] => []
  | i :: rest => (side, i) :: along (side.after i) rest

/-- How often two neighbours differ. -/
def changes : List Side → Nat
  | first :: second :: rest => (if first = second then 0 else 1) + changes (second :: rest)
  | _ => 0

theorem changes_angles_cons (side : Side) (i : Instruction) (p : Program) :
    changes (side :: (Program.angles (i :: p)).map Side.of) =
      (if side = side.after i then 0 else 1) + changes (side.after i :: p.angles.map Side.of) := by
  obtain ⟨command, line⟩ := i
  cases command with
  | bend angle => rfl
  | _ => simp [Program.angles, after]

end Side

namespace Gcode

/-- The pin as a controller follows it. -/
inductive Pin where
  | lowered
  /-- It was said that the pin is about to be raised. -/
  | rising
  | raised
  /-- It was said that the pin is about to be lowered. -/
  | sinking
  /-- The pin was moved without a word, or not to where it was to go. -/
  | astray
  deriving DecidableEq

/-- The pin behind a word. -/
def Pin.next (c : Settings) (pin : Pin) : Word → Pin
  | .duck => .rising
  | .unduck => .sinking
  | .rapid 'Z' z =>
    match pin with
    | .rising => if z = c.pinRaised.compact then .raised else .astray
    | .sinking => if z = c.pinLowered.compact then .lowered else .astray
    | _ => .astray
  | _ => pin

/-- Is the word a move at a rate? -/
def Word.isMove : Word → Bool
  | .move .. => true
  | _ => false

/-- Does the word take the head elsewhere without working? -/
def Word.isTravel : Word → Bool
  | .rapid 'X' _ => true
  | _ => false

/-- The text of a move without working to where the head clears the wire on a side. -/
def clearing (c : Settings) (side : Side) : String :=
  "G0X" ++ coordinate (c.clearance side)

/-- A block of lines that handles the pin as it has to for an instruction, met with the head on a
side and the pin lowered. -/
structure KeepsPin (c : Settings) (side : Side) (i : Instruction) (block : List String) : Prop
    extends IsBlock block where
  /-- The pin is lowered behind the block. -/
  lowered : stateAfter (Pin.next c) .lowered block = .lowered
  /-- It is lowered at each move at a rate. -/
  moves : ∀ x ∈ trace (Pin.next c) .lowered block, x.2.isMove = true → x.1 = .lowered
  /-- It is raised once if the side changes, and else never. -/
  ducks : block.count "(Duck)" = if side = side.after i then 0 else 1
  /-- It is lowered as often as it is raised. -/
  unducks : block.count "(Unduck)" = if side = side.after i then 0 else 1
  /-- If a bend changes sides, the head clears the wire on the new side between raising and lowering
  the pin, and the bend, which is the only move at a rate, comes after both. The head travels
  nowhere in such a block unless the pin is raised. -/
  crossing : ∀ angle, i.command = .bend angle → side ≠ Side.of angle →
    ["(Duck)", clearing c (Side.of angle), "(Unduck)",
      "G1X" ++ coordinate angle ++ rate c.bendRate].Sublist block ∧
    block.countP (fun line => (Word.read line).isMove) = 1 ∧
    ∀ x ∈ trace (Pin.next c) .lowered block, x.2.isTravel = true → x.1 = .raised
  /-- A feed has the head clear the wire on its side just before the move that feeds. -/
  feed : ∀ length, i.command = .feed length →
    [clearing c side, "G91", "G1Y" ++ coordinate length ++ rate c.feedRate] <:+: block

/-! ## One block -/

variable {c : Settings} {angle angle' : Binary64} {i : Instruction} {lines : List Line}

theorem Emits.lowered (emits : Emits c angle i lines angle') :
    stateAfter (Pin.next c) .lowered (lines.map Line.text) = .lowered := by
  cases emits <;> simp [stateAfter, Word.read_text, Line.word, Pin.next]

theorem Emits.moves (emits : Emits c angle i lines angle') :
    ∀ x ∈ trace (Pin.next c) .lowered (lines.map Line.text),
      x.2.isMove = true → x.1 = .lowered := by
  cases emits <;> simp [trace, Word.read_text, Line.word, Pin.next, Word.isMove]

theorem count_duck_text (lines : List Line) :
    (lines.map Line.text).count "(Duck)" = lines.count (.remark .duck) :=
  count_text (m := .remark .duck) Line.eq_of_word_duck lines

theorem count_unduck_text (lines : List Line) :
    (lines.map Line.text).count "(Unduck)" = lines.count (.remark .unduck) :=
  count_text (m := .remark .unduck) Line.eq_of_word_unduck lines

/-- The side of the last bend is followed along with its angle. -/
theorem Emits.side_eq (emits : Emits c angle i lines angle') :
    Side.of angle' = (Side.of angle).after i := by
  cases emits <;> rfl

theorem Emits.defined (emits : Emits c angle i lines angle') (defined : angle ≠ .nan)
    (bends : i.command ≠ .bend .nan) : angle' ≠ .nan := by
  cases emits with
  | bend _ => exact fun undefined => bends (congrArg Command.bend undefined)
  | crossing _ => exact fun undefined => bends (congrArg Command.bend undefined)
  | _ => exact defined

/-- A bend to the other side clears the wire there while the pin is raised. -/
theorem Emits.clears_of_crossing {target : Binary64} {line : Option Int}
    (emits : Emits c angle ⟨.bend target, line⟩ lines angle') (defined : target ≠ .nan)
    (crosses : Side.of angle ≠ Side.of target) :
    ["(Duck)", clearing c (Side.of target), "(Unduck)",
      "G1X" ++ coordinate target ++ rate c.bendRate].Sublist (lines.map Line.text) ∧
    (lines.map Line.text).countP (fun line => (Word.read line).isMove) = 1 ∧
    ∀ x ∈ trace (Pin.next c) .lowered (lines.map Line.text),
      x.2.isTravel = true → x.1 = .raised := by
  cases emits with
  | bend same => exact absurd same crosses
  | crossing _ =>
      refine ⟨?_, ?_, ?_⟩
      · have order : [Line.remark .duck, .travel (c.clearanceFor angle'), .remark .unduck,
            .bend angle' c.bendRate].Sublist
            [.remark .duck, .pin c.pinRaised, .remark (.clear (Side.of angle')),
              .travel (c.clearanceFor angle'), .remark .unduck, .pin c.pinLowered,
              .bend angle' c.bendRate] :=
          .cons_cons _ (.cons _ (.cons _ (.cons_cons _ (.cons_cons _ (.cons _
            (.cons_cons _ .slnil))))))
        have texts := order.map Line.text
        rw [c.clearanceFor_eq defined] at texts ⊢
        exact texts
      · simp [Word.read_text, Line.word, Word.isMove]
      · simp [trace, Word.read_text, Line.word, Pin.next, Word.isTravel]

/-- A feed clears the wire on the side that the head is on. -/
theorem Emits.clears_of_feed {length : Binary64} {line : Option Int}
    (emits : Emits c angle ⟨.feed length, line⟩ lines angle') (defined : angle ≠ .nan) :
    [clearing c (Side.of angle), "G91", "G1Y" ++ coordinate length ++ rate c.feedRate] <:+:
      lines.map Line.text := by
  cases emits with
  | feed =>
      rw [c.clearanceFor_eq defined]
      exact ⟨[(Line.remark (.feed length)).text], ["G90"], rfl⟩

/-- The block of an instruction handles the pin as it has to. -/
theorem Emits.keepsPin (emits : Emits c angle i lines angle') (defined : angle ≠ .nan)
    (bends : i.command ≠ .bend .nan) :
    KeepsPin c (Side.of angle) i (lines.map Line.text) where
  toIsBlock := emits.isBlock
  lowered := emits.lowered
  moves := emits.moves
  ducks := by
    rw [count_duck_text]
    cases emits <;> simp_all [Side.after]
  unducks := by
    rw [count_unduck_text]
    cases emits <;> simp_all [Side.after]
  crossing := by
    obtain ⟨command, line⟩ := i
    rintro target rfl crosses
    have defined : target ≠ .nan := fun undefined => bends (congrArg Command.bend undefined)
    exact emits.clears_of_crossing defined crosses
  feed := by
    obtain ⟨command, line⟩ := i
    rintro length rfl
    exact emits.clears_of_feed defined

/-! ## Block after block -/

theorem EmitsAll.keepsPin {p : Program} {blocks : List (List Line)}
    (all : EmitsAll c angle p blocks) (defined : angle ≠ .nan)
    (bends : ∀ i ∈ p, i.command ≠ .bend .nan) :
    List.Forall₂ (fun x block => KeepsPin c x.1 x.2 block) ((Side.of angle).along p)
      (blocks.map (List.map Line.text)) := by
  induction all with
  | nil => exact .nil
  | cons first _ ih =>
      rw [List.forall_mem_cons] at bends
      -- The angle left behind is defined again, and its side is the one the next block starts on.
      have rest := ih (first.defined defined bends.1) bends.2
      rw [first.side_eq] at rest
      exact .cons (first.keepsPin defined bends.1) rest

/-- A text that stands once in each block where the side changes, and nowhere else, stands in the
blocks as often as the side changes. -/
theorem count_blocks {text : String} (notEmpty : text ≠ "") {p : Program} {side : Side}
    {blocks : List (List String)}
    (each : List.Forall₂ (fun x block => block.count text = if x.1 = x.1.after x.2 then 0 else 1)
      (side.along p) blocks) :
    (blocks.flatMap (· ++ [""])).count text = Side.changes (side :: p.angles.map Side.of) := by
  induction p generalizing side blocks with
  | nil =>
      cases each
      rfl
  | cons i p ih =>
      cases each with
      | @cons _ block _ blocks first rest =>
          rw [List.flatMap_cons, List.count_append, List.count_append, first, ih rest,
            List.count_singleton, Side.changes_angles_cons]
          simp [notEmpty.symm]

/-- Over a flat program whose angles are defined, the block of each instruction handles the pin as
it has to for the side of the last bend before it. The pin is raised and lowered as often as the
side changes, starting from the side of zero, and it is lowered at each move at a rate, behind the
preamble and behind each block. -/
theorem generate_keeps_pin (c : Settings) (p : Program) (flat : p.isFlat = true)
    (bends : ∀ i ∈ p, i.command ≠ .bend .nan) :
    ∃ lines blocks, generate c p = .ok lines ∧
      lines.map Line.text = Machine.preamble.map Line.text ++ blocks.flatMap (· ++ [""]) ∧
      List.Forall₂ (fun x block => KeepsPin c x.1 x.2 block)
        (Side.negative.along p.withoutComments) blocks ∧
      (lines.map Line.text).count "(Duck)" = Side.changes ((.zero :: p.angles).map Side.of) ∧
      (lines.map Line.text).count "(Unduck)" = Side.changes ((.zero :: p.angles).map Side.of) ∧
      (∀ x ∈ trace (Pin.next c) .lowered (lines.map Line.text),
        x.2.isMove = true → x.1 = .lowered) ∧
      ∀ n, stateAfter (Pin.next c) .lowered
        (Machine.preamble.map Line.text ++ (blocks.take n).flatMap (· ++ [""])) = .lowered := by
  obtain ⟨lines, lineBlocks, made, emits, text⟩ := generate_of_flat (c := c) flat
  have kept : List.Forall₂ (fun x block => KeepsPin c x.1 x.2 block)
      (Side.negative.along p.withoutComments) (lineBlocks.map (List.map Line.text)) :=
    emits.keepsPin (by decide) fun i mem => bends i (List.mem_of_mem_filter mem)
  have angles : p.withoutComments.angles = p.angles :=
    Program.filterMap_withoutComments (fun i comment => by rw [comment]) p
  have back : ∀ block ∈ lineBlocks.map (List.map Line.text),
      stateAfter (Pin.next c) .lowered block = .lowered :=
    emits.forall_mem_texts fun one => one.lowered
  have moves : ∀ block ∈ lineBlocks.map (List.map Line.text),
      ∀ x ∈ trace (Pin.next c) .lowered block, x.2.isMove = true → x.1 = .lowered :=
    emits.forall_mem_texts fun one => one.moves
  generalize lineBlocks.map (List.map Line.text) = blocks at text kept back moves
  have preamble : stateAfter (Pin.next c) .lowered (Machine.preamble.map Line.text) = .lowered := by
    simp [Machine.preamble, stateAfter, Word.read_text, Line.word, Pin.next]
  refine ⟨lines, blocks, made, text, kept, ?_, ?_, fun x mem => ?_, fun n => ?_⟩
  · rw [text, List.count_append, count_duck_text,
      count_blocks (by decide) (kept.imp fun _ _ one => one.ducks), angles]
    exact Nat.zero_add _
  · rw [text, List.count_append, count_unduck_text,
      count_blocks (by decide) (kept.imp fun _ _ one => one.unducks), angles]
    exact Nat.zero_add _
  · rw [text, trace_append, preamble, List.mem_append] at mem
    rcases mem with mem | mem
    · revert x
      simp [Machine.preamble, trace, Word.read_text, Line.word, Word.isMove]
    · exact forall_mem_trace_blocks (P := fun x => x.2.isMove = true → x.1 = .lowered) rfl
        (fun impossible => by cases impossible) back moves x mem
  · rw [stateAfter_append, preamble]
    exact stateAfter_blocks rfl fun block mem => back block (List.mem_of_mem_take mem)

/-- A bend to the positive side, a feed there and a bend to zero change sides twice. -/
theorem generate_keeps_pin_there_and_back :
    ∃ lines, generate .stock [⟨.bend (.ofInt 90), none⟩, ⟨.feed (.ofInt 5), none⟩,
        ⟨.bend (.ofInt 0), none⟩] = .ok lines ∧
      (lines.map Line.text).count "(Duck)" = 2 ∧ (lines.map Line.text).count "(Unduck)" = 2 := by
  obtain ⟨lines, _, made, -, -, ducks, unducks, -⟩ := generate_keeps_pin .stock
    [⟨.bend (.ofInt 90), none⟩, ⟨.feed (.ofInt 5), none⟩, ⟨.bend (.ofInt 0), none⟩] rfl
    (by decide +kernel)
  exact ⟨lines, made, ducks.trans (by decide +kernel), unducks.trans (by decide +kernel)⟩

end Gcode

end Wireform
