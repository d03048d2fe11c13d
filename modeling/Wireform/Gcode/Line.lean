import Wireform.Notice
import Wireform.Program.LengthUnit

/-!
Lines of G-code. `X` is the axis that bends, `Y` the one that advances the wire, and `Z` the pin.
Positions on `X` and `Y` have five places and rates three; positions of the pin are written as
short as they can be.
-/

namespace Wireform.Gcode

/-- What a remark, a line between parentheses, says. -/
inductive Remark where
  | title
  | origin
  | absoluteMode
  | unitChange (u : LengthUnit)
  | unknownUnit (code : String)
  | feed (length : Binary64)
  | duck
  | unduck
  | clear (side : Side)
  | bend (angle : Binary64)
  deriving DecidableEq

/-- A line of G-code. -/
inductive Line where
  | blank
  | remark (r : Remark)
  /-- Lengths from here on are in the unit. -/
  | units (u : LengthUnit)
  /-- Positions from here on are absolute. -/
  | absolute
  /-- Positions from here on are relative. -/
  | relative
  /-- Move the head to a position without bending. -/
  | travel (x : Binary64)
  /-- Move the pin. -/
  | pin (z : Binary64)
  /-- Advance the wire. -/
  | feed (y rate : Binary64)
  /-- Bend. -/
  | bend (x rate : Binary64)
  deriving DecidableEq

/-- A position with five places, zero having no sign. -/
def coordinate (x : Binary64) : String :=
  x.unsignedZero.fixed 5

/-- A rate with three places, behind its letter. -/
def rate (x : Binary64) : String :=
  "F" ++ x.fixed 3

/-- The words of a remark. -/
def Remark.text : Remark → String
  | .title => "Bend Program"
  | .origin => "Generated by wire_bender"
  | .absoluteMode => "Absolute Mode"
  | .unitChange .inch => "Change units to inches"
  | .unitChange .millimeter => "Change units to millimeters"
  | .unknownUnit code => "Warning: unknown unit change? \"" ++ code ++ "\""
  | .feed length => "Feed " ++ length.unsignedZero.fixed 3
  | .duck => "Duck"
  | .unduck => "Unduck"
  | .clear side => "Clear wire on " ++ side.word ++ " side"
  | .bend angle => "Bend " ++ angle.compact ++ " degrees"

/-- A line as it is written. -/
def Line.text : Line → String
  | .blank => ""
  | .remark r => "(" ++ r.text ++ ")"
  | .units .inch => "G20"
  | .units .millimeter => "G21"
  | .absolute => "G90"
  | .relative => "G91"
  | .travel x => "G0X" ++ coordinate x
  | .pin z => "G0Z" ++ z.compact
  | .feed y r => "G1Y" ++ coordinate y ++ rate r
  | .bend x r => "G1X" ++ coordinate x ++ rate r

end Wireform.Gcode
