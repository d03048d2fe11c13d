import Wireform.Binary64.Digits
import Wireform.Text.Quoted

/-!
Instructions of a bend program. An instruction is a command with the source line it came from; two
instructions are the same if their commands are, whatever their lines.
-/

namespace Wireform

/-- What an instruction asks for. -/
inductive Command where
  /-- Lengths from here on are in the unit with this code. -/
  | unit (code : String)
  /-- Advance the wire. -/
  | feed (length : Binary64)
  /-- Bend the wire to an angle in degrees. -/
  | bend (angle : Binary64)
  /-- Start of a block that is run so many times. -/
  | repeat (count : Nat)
  /-- End of a block. -/
  | close
  /-- Nothing: a remark or an empty line. -/
  | comment
  /-- No kind of command in particular. -/
  | unspecified
  deriving DecidableEq

/-- A command and the line of the source it stands on, if any. -/
structure Instruction where
  command : Command
  line : Option Int := none
  deriving DecidableEq

/-- A program: its instructions in order. -/
abbrev Program := List Instruction

namespace Command

/-- The name of the kind of command. -/
def name : Command → String
  | .unit _ => "Unit"
  | .feed _ => "Feed"
  | .bend _ => "Bend"
  | .repeat _ => "Repeat"
  | .close => "End"
  | .comment => "Comment"
  | .unspecified => "Instruction"

/-- Do two commands ask for the same, numbers being compared by value? -/
def same : Command → Command → Bool
  | .unit a, .unit b => a == b
  | .feed a, .feed b => a.sameValue b
  | .bend a, .bend b => a.sameValue b
  | .repeat a, .repeat b => a == b
  | .close, .close => true
  | .comment, .comment => true
  | .unspecified, .unspecified => true
  | _, _ => false

/-- Is the command one that needs no unrolling? -/
def isFlat : Command → Bool
  | .unit _ | .feed _ | .bend _ | .comment => true
  | _ => false

/-- The command that starts a block to be run `count` times, which must not be negative. -/
def repeat? (count : Int) : Option Command :=
  if count < 0 then none else some (.repeat count.toNat)

/-- What is said of a negative count. -/
def negativeCountMessage (count : Int) : String :=
  "Repeat count must be >= 0, got " ++ toString count

/-- The argument of the command, as a listing shows it. -/
def argumentText : Command → String
  | .unit code => ", code=" ++ Text.quoted code
  | .feed length => ", length=" ++ length.text
  | .bend angle => ", angle=" ++ angle.text
  | .repeat count => ", count=" ++ toString count
  | _ => ""

end Command

/-- A line number as messages show it. -/
def lineText : Option Int → String
  | some n => toString n
  | none => "None"

namespace Instruction

/-- The instruction as a listing shows it. -/
def listing (i : Instruction) : String :=
  i.command.name ++ "(line=" ++ lineText i.line ++ i.command.argumentText ++ ")"

end Instruction

/-- Does the program hold no command that needs unrolling? -/
def Program.isFlat (p : Program) : Bool :=
  p.all fun i => i.command.isFlat

end Wireform
