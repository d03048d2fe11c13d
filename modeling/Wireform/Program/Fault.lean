import Wireform.Text.Quoted

/-!
What can be wrong with a bend program, and how it is said.
-/

namespace Wireform

/-- The causes for which a line of a program is refused. -/
inductive Fault where
  /-- A cause with its own wording. -/
  | other (message : String)
  /-- The line is no statement; `text` is what stands on it. -/
  | unrecognised (text : String)
  /-- The end of a block that was never opened. -/
  | unmatchedEnd
  /-- A block that is never closed. -/
  | unmatchedRepeat
  deriving DecidableEq

namespace Fault

/-- The cause in words. -/
def message : Fault → String
  | .other m => m
  | .unrecognised text => "Syntax error: unrecognised statement " ++ Text.quoted text
  | .unmatchedEnd => "END without REPEAT"
  | .unmatchedRepeat => "REPEAT without END"

/-- The short name of the cause. -/
def kind : Fault → String
  | .other _ => "ProgramError"
  | .unrecognised _ => "SyntaxError"
  | .unmatchedEnd => "UnmatchedEnd"
  | .unmatchedRepeat => "UnmatchedRepeat"

/-- The text of the refused line, where the cause is about it. -/
def source? : Fault → Option String
  | .unrecognised text => some text
  | _ => none

end Fault

/-- A fault and the line where it shows. -/
structure LocatedFault where
  line : Int
  fault : Fault
  deriving DecidableEq

/-- The fault in words, with its line. -/
def LocatedFault.message (e : LocatedFault) : String :=
  e.fault.message ++ " (line " ++ toString e.line ++ ")"

end Wireform
