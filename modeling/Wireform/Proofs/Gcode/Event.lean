import Mathlib.Data.List.Forall2
import Wireform.Proofs.Gcode.Block

/-!
What a controller does on G-code.

A controller starts in either mode and changes it on `G90` and `G91`; a unit or a move at a rate is
an event, a move being relative or absolute as the mode is when it is met. The events of the lines
of a flat program are the events that its instructions mean, in order.

* `Emits.carriesOut`: one block, read in absolute mode, is the event of its instruction and ends
  in absolute mode.
* `events_blocks`: the events of blocks that are carried out one after the other.
-/

namespace Wireform.Gcode

/-- How a controller takes positions. -/
inductive Mode where
  | absolute
  | relative
  deriving DecidableEq

/-- The mode behind a word. -/
def Mode.next (mode : Mode) : Word → Mode
  | .absolute => .absolute
  | .relative => .relative
  | _ => mode

/-- Something a controller does that counts: a unit taken up, or a move at a rate. -/
inductive Event where
  | units (u : LengthUnit)
  | move (axis : Char) (mode : Mode) (target rate : String)
  deriving DecidableEq

/-- What a word does in a mode. -/
def Word.event? (mode : Mode) : Word → Option Event
  | .units u => some (.units u)
  | .move axis target rate => some (.move axis mode target rate)
  | _ => none

/-- The events of some lines, read from a mode on. -/
def events (mode : Mode) (lines : List String) : List Event :=
  (trace Mode.next mode lines).filterMap fun x => x.2.event? x.1

/-- Is the mode the one that a word is meant for? The wire is fed relatively and all else that moves
goes to an absolute position; a word that is not known is meant for none. -/
def Word.fits (mode : Mode) : Word → Bool
  | .rapid _ _ => mode = .absolute
  | .move 'Y' _ _ => mode = .relative
  | .move _ _ _ => mode = .absolute
  | .unknown => false
  | _ => true

/-- What an instruction means. -/
def Event.ofInstruction? (c : Settings) (i : Instruction) : Option Event :=
  match i.command with
  | .unit code => (LengthUnit.ofCode? code).map .units
  | .feed length => some (.move 'Y' .relative (coordinate length) (rate c.feedRate))
  | .bend angle => some (.move 'X' .absolute (coordinate angle) (rate c.bendRate))
  | _ => none

/-- A block of lines that does what an instruction means when it is read in absolute mode. -/
structure CarriesOut (c : Settings) (i : Instruction) (block : List String) : Prop
    extends IsBlock block where
  events_eq : events .absolute block = (Event.ofInstruction? c i).toList
  fits : ∀ x ∈ trace Mode.next .absolute block, x.2.fits x.1 = true
  absolute : stateAfter Mode.next .absolute block = .absolute

theorem events_append (mode : Mode) (first second : List String) :
    events mode (first ++ second) =
      events mode first ++ events (stateAfter Mode.next mode first) second := by
  rw [events, trace_append, List.filterMap_append]
  rfl

variable {c : Settings} {angle angle' : Binary64} {i : Instruction} {lines : List Line}

/-- The block of an instruction carries it out. -/
theorem Emits.carriesOut (emits : Emits c angle i lines angle') :
    CarriesOut c i (lines.map Line.text) where
  toIsBlock := emits.isBlock
  events_eq := by
    cases emits <;>
      simp [events, trace, Word.read_text, Line.word, Mode.next, Word.event?,
        Event.ofInstruction?, *]
  fits := by
    cases emits <;>
      simp [trace, Word.read_text, Line.word, Mode.next, Word.fits]
  absolute := by
    cases emits <;> simp [stateAfter, Word.read_text, Line.word, Mode.next]

theorem EmitsAll.carriesOut {p : Program} {blocks : List (List Line)}
    (emits : EmitsAll c angle p blocks) :
    List.Forall₂ (CarriesOut c) p (blocks.map (List.map Line.text)) := by
  induction emits with
  | nil => exact .nil
  | cons first _ ih => exact .cons first.carriesOut ih

/-- The events of blocks one after the other are those that the instructions mean. -/
theorem events_blocks {p : Program} {blocks : List (List String)}
    (done : List.Forall₂ (CarriesOut c) p blocks) :
    events .absolute (blocks.flatMap (· ++ [""])) = p.filterMap (Event.ofInstruction? c) := by
  induction done with
  | nil => rfl
  | @cons i block p blocks first _ ih =>
      -- A block ends in the mode it starts in, so the next one is read as if it were the first.
      have one : events .absolute (block ++ [""]) = (Event.ofInstruction? c i).toList := by
        rw [events_append, first.events_eq, first.absolute]
        exact List.append_nil _
      have behind : stateAfter Mode.next .absolute (block ++ [""]) = .absolute := by
        rw [stateAfter_append, first.absolute]
        rfl
      rw [List.flatMap_cons, events_append, one, behind, ih, List.filterMap_cons]
      cases Event.ofInstruction? c i <;> rfl

/-- The lines of a flat program are the preamble and one block for each instruction other than a
comment. Whichever mode the controller starts in, what it does is what the instructions mean, in
order; it meets each word in the mode that the word is meant for and is in absolute mode behind the
preamble and behind each block. -/
theorem generate_carries_out (c : Settings) (p : Program) (flat : p.isFlat = true) :
    ∃ lines blocks, generate c p = .ok lines ∧
      lines.map Line.text = Machine.preamble.map Line.text ++ blocks.flatMap (· ++ [""]) ∧
      List.Forall₂ (CarriesOut c) p.withoutComments blocks ∧
      ∀ mode : Mode,
        events mode (lines.map Line.text) = p.filterMap (Event.ofInstruction? c) ∧
        (∀ x ∈ trace Mode.next mode (lines.map Line.text), x.2.fits x.1 = true) ∧
        ∀ n, stateAfter Mode.next mode
          (Machine.preamble.map Line.text ++ (blocks.take n).flatMap (· ++ [""])) = .absolute := by
  obtain ⟨lines, lineBlocks, made, emits, text⟩ := generate_of_flat (c := c) flat
  have done := emits.carriesOut
  have back : ∀ block ∈ lineBlocks.map (List.map Line.text),
      stateAfter Mode.next .absolute block = .absolute :=
    emits.forall_mem_texts fun one => one.carriesOut.absolute
  have fits : ∀ block ∈ lineBlocks.map (List.map Line.text),
      ∀ x ∈ trace Mode.next .absolute block, x.2.fits x.1 = true :=
    emits.forall_mem_texts fun one => one.carriesOut.fits
  generalize lineBlocks.map (List.map Line.text) = blocks at text done back fits
  refine ⟨lines, blocks, made, text, done, fun mode => ?_⟩
  rw [text]
  have absolute : stateAfter Mode.next mode (Machine.preamble.map Line.text) = .absolute := by
    simp [Machine.preamble, stateAfter, Word.read_text, Line.word, Mode.next]
  refine ⟨?_, fun x mem => ?_, fun n => ?_⟩
  · have silent : events mode (Machine.preamble.map Line.text) = [] := by
      simp [Machine.preamble, events, trace, Word.read_text, Line.word, Mode.next, Word.event?]
    have comments (i : Instruction) (comment : i.command = .comment) :
        Event.ofInstruction? c i = none := by
      rw [Event.ofInstruction?, comment]
    rw [events_append, silent, absolute, events_blocks done, List.nil_append,
      Program.filterMap_withoutComments comments]
  · rw [trace_append, absolute, List.mem_append] at mem
    rcases mem with mem | mem
    · revert x
      simp [Machine.preamble, trace, Word.read_text, Line.word, Mode.next, Word.fits]
    · exact forall_mem_trace_blocks (P := fun x => x.2.fits x.1 = true) rfl rfl back fits x mem
  · rw [stateAfter_append, absolute]
    exact stateAfter_blocks rfl fun block mem => back block (List.mem_of_mem_take mem)

/-- A unit, a feed, a comment and a bend to the other side are three events. -/
theorem generate_carries_out_crossing :
    ∃ lines, generate .stock [⟨.unit "mm", none⟩, ⟨.feed (.ofInt 5), none⟩, ⟨.comment, none⟩,
        ⟨.bend (.ofInt 90), none⟩] = .ok lines ∧
      events .relative (lines.map Line.text) =
        [.units .millimeter,
          .move 'Y' .relative (coordinate (.ofInt 5)) (rate Settings.stock.feedRate),
          .move 'X' .absolute (coordinate (.ofInt 90)) (rate Settings.stock.bendRate)] := by
  obtain ⟨lines, _, made, -, -, done⟩ := generate_carries_out .stock
    [⟨.unit "mm", none⟩, ⟨.feed (.ofInt 5), none⟩, ⟨.comment, none⟩, ⟨.bend (.ofInt 90), none⟩] rfl
  exact ⟨lines, made, (done .relative).1⟩

end Wireform.Gcode
