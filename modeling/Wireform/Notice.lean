import Wireform.Binary64.Digits
import Wireform.Program.Instruction

/-!
Notices: what the program reports on its way, each with its level, the part of the program that
gives it, and its wording.
-/

namespace Wireform

/-- The side of the wire that the bend head is on. -/
inductive Side where
  | negative
  | positive
  deriving DecidableEq

/-- The side on which an angle lies; zero is on the negative side. -/
def Side.of (angle : Binary64) : Side :=
  if angle.isPositive then .positive else .negative

/-- The word for a side. -/
def Side.word : Side → String
  | .negative => "negative"
  | .positive => "positive"

/-- Something worth reporting. -/
inductive Notice where
  | loadingSettings (path : String)
  | settingsLoaded
  | equalClearances (clearance : Binary64)
  | parsed (instructions : Nat)
  | expanded (source flat : Nat)
  | sideChange (side : Side) (line : Option Int)
  | unknownUnit (code : String) (line : Option Int)
  | generated (lines instructions : Nat)
  | compiled (source flat : Nat)
  | compileFailed (kind : String) (line : Int)
  | written (path : String)
  deriving DecidableEq

/-- How much a report matters, in ascending steps. -/
abbrev Level := Int

/-- The levels that have names. -/
def Level.debug : Level := 10
def Level.info : Level := 20
def Level.warning : Level := 30
def Level.error : Level := 40
def Level.critical : Level := 50

namespace Notice

/-- The level of a notice. -/
def level : Notice → Level
  | .loadingSettings _ | .settingsLoaded | .compiled .. | .written _ => .info
  | .equalClearances _ | .unknownUnit .. => .warning
  | .parsed _ | .expanded .. | .sideChange .. | .generated .. | .compileFailed .. => .debug

/-- The part of the program that gives the notice. -/
def channel : Notice → String
  | .loadingSettings _ | .settingsLoaded | .equalClearances _ => "wire_bender.configs.loader"
  | .parsed _ => "wire_bender.dsl.parser"
  | .expanded .. => "wire_bender.dsl.expander"
  | .sideChange .. | .unknownUnit .. | .generated .. => "wire_bender.gcode.generator"
  | .compiled .. => "wire_bender.compiler"
  | .compileFailed .. | .written _ => "wire_bender.scripts.compile_bend"

/-- The notice in words. -/
def message : Notice → String
  | .loadingSettings path => "Loading configuration from " ++ path
  | .settingsLoaded => "Configuration loaded successfully"
  | .equalClearances clearance =>
    "Positive and negative bend clearances are identical (" ++ clearance.fixed 3 ++
      "); side changes will not move the bend head"
  | .parsed instructions => "Parsed " ++ toString instructions ++ " instruction(s)"
  | .expanded source flat =>
    "Expanded " ++ toString source ++ " instruction(s) into " ++ toString flat
  | .sideChange side line => "Side change to " ++ side.word ++ " at line " ++ lineText line
  | .unknownUnit code line =>
    "Unknown unit code " ++ Text.quoted code ++ " at line " ++ lineText line
  | .generated lines instructions =>
    "Generated " ++ toString lines ++ " G-code line(s) from " ++ toString instructions ++
      " instruction(s)"
  | .compiled source flat =>
    "Compiled " ++ toString source ++ " source line(s) into " ++ toString flat ++
      " instruction(s)"
  | .compileFailed kind line => "Compile failed: kind=" ++ kind ++ " line=" ++ toString line
  | .written path => "G-code written to " ++ path

end Notice

/-- The wordings of those notices that are warnings or worse. -/
def warningsOf (notices : List Notice) : List String :=
  (notices.filter fun n => Level.warning ≤ n.level).map Notice.message

end Wireform
