import Wireform.Gcode.Line
import Wireform.Settings.Basic

/-!
The machine while G-code is put together, and the block of lines that each instruction becomes.

The head sits on one side of the wire. To change sides the pin is raised, the head goes to the
clearance of the new side, and the pin is lowered again before the bend. Before the wire is fed,
the head goes to the clearance of the side it is on.
-/

namespace Wireform.Gcode

/-- What has to be known of the machine between instructions. -/
structure Machine where
  /-- The last angle it was told to bend to. -/
  angle : Binary64 := .zero
  /-- Is the pin raised? -/
  ducked : Bool := false
  deriving DecidableEq

/-- The lines that an instruction becomes, and what is reported with them. -/
structure Block where
  lines : List Line
  notices : List Notice := []
  deriving DecidableEq

/-- An instruction that has no G-code, with its line. -/
structure Unsupported where
  command : Command
  line : Option Int
  deriving DecidableEq

/-- What is said of an instruction that has no G-code. -/
def Unsupported.message (u : Unsupported) : String :=
  "Cannot generate G-code for " ++ u.command.name ++
    (match u.line with
      | some n => " (line " ++ toString n ++ ")"
      | none => "") ++
    "; program must be expanded first"

namespace Machine

/-- The machine at the start of a program. -/
def initial : Machine := {}

/-- The lines at the start of a program. -/
def preamble : List Line :=
  [.remark .title, .remark .origin, .blank, .remark .absoluteMode, .absolute, .blank]

/-- The lines at the end of a program. -/
def closing : List Line := []

/-- Raises the pin, unless it is raised already and raising it again is not asked for. -/
def duck (c : Settings) (force : Bool) (m : Machine) : List Line × Machine :=
  if m.ducked && !force then ([], m)
  else ([.remark .duck, .pin c.pinRaised], { m with ducked := true })

/-- Lowers the pin, unless it is lowered already and lowering it again is not asked for. -/
def unduck (c : Settings) (force : Bool) (m : Machine) : List Line × Machine :=
  if !m.ducked && !force then ([], m)
  else ([.remark .unduck, .pin c.pinLowered], { m with ducked := false })

/-- The block of a change of unit. An unknown unit is passed over with a warning. -/
def unitBlock (code : String) (line : Option Int) : Block :=
  match LengthUnit.ofCode? code with
  | some u => { lines := [.remark (.unitChange u), .units u] }
  | none =>
    { lines := [.remark (.unknownUnit code)], notices := [.unknownUnit code line] }

/-- The block of a feed. -/
def feedBlock (c : Settings) (m : Machine) (length : Binary64) : Block :=
  { lines := [.remark (.feed length), .travel (c.clearanceFor m.angle), .relative,
      .feed length c.feedRate, .absolute] }

/-- The block of a bend, and the pin after it. -/
def bendBlock (c : Settings) (m : Machine) (angle : Binary64) (line : Option Int) :
    Block × Bool :=
  if Side.of m.angle = Side.of angle then
    ({ lines := [.remark (.bend angle), .bend angle c.bendRate] }, m.ducked)
  else
    let (raising, up) := m.duck c false
    let (lowering, down) := up.unduck c false
    ({ lines := raising ++ [.remark (.clear (Side.of angle)), .travel (c.clearanceFor angle)] ++
          lowering ++ [.bend angle c.bendRate]
       notices := [.sideChange (Side.of angle) line] },
      down.ducked)

/-- The block of an instruction and the machine after it. -/
def emit (c : Settings) (m : Machine) (i : Instruction) : Except Unsupported (Block × Machine) :=
  match i.command with
  | .feed length => .ok (feedBlock c m length, m)
  | .bend angle =>
    let (block, ducked) := bendBlock c m angle i.line
    .ok (block, { angle, ducked })
  | .unit code => .ok (unitBlock code i.line, m)
  | .comment => .ok ({ lines := [] }, m)
  | command => .error ⟨command, i.line⟩

/-- What a machine can be told to do. -/
inductive Action where
  | duck (force : Bool)
  | unduck (force : Bool)
  /-- Start a program. -/
  | start
  /-- Finish a program. -/
  | finish
  /-- Carry out an instruction. -/
  | perform (i : Instruction)
  deriving DecidableEq

/-- Does one thing: the block it becomes, and the machine after it. What cannot be done leaves the
machine as it is. -/
def act (c : Settings) (m : Machine) : Action → Except Unsupported Block × Machine
  | .duck force => let (lines, m') := m.duck c force; (.ok { lines }, m')
  | .unduck force => let (lines, m') := m.unduck c force; (.ok { lines }, m')
  | .start => (.ok { lines := preamble }, initial)
  | .finish => (.ok { lines := closing }, m)
  | .perform i =>
    match m.emit c i with
    | .ok (block, m') => (.ok block, m')
    | .error e => (.error e, m)

/-- The blocks of a program in order, up to the first instruction that has none. -/
def blocks (c : Settings) (m : Machine) : Program → List Block × Option Unsupported
  | [] => ([], none)
  | i :: rest =>
    match m.emit c i with
    | .error e => ([], some e)
    | .ok (block, m') =>
      let (more, e) := blocks c m' rest
      (block :: more, e)

end Machine

/-- A block with the empty line that parts it from the next; nothing for an empty block. -/
def Block.separated (b : Block) : List Line :=
  if b.lines.isEmpty then [] else b.lines ++ [.blank]

/-- The lines of a program that needs no unrolling. -/
def generate (c : Settings) (p : Program) : Except Unsupported (List Line) :=
  match Machine.initial.blocks c p with
  | (_, some e) => .error e
  | (bs, none) => .ok (Machine.preamble ++ bs.flatMap Block.separated ++ Machine.closing)

/-- What is reported while the lines of a program are put together. -/
def notices (c : Settings) (p : Program) : List Notice :=
  (Machine.initial.blocks c p).1.flatMap Block.notices ++
    match generate c p with
    | .ok lines => [.generated lines.length p.length]
    | .error _ => []

/-- Lines as one text. -/
def render (lines : List Line) : String :=
  "\n".intercalate (lines.map Line.text)

end Wireform.Gcode
