import Wireform.Text.Blank
import Wireform.Text.LetterCase
import Wireform.Text.Quoted

/-!
Units of length: the words a program may use for them and the code each is known by.
-/

namespace Wireform

/-- A unit of length. -/
inductive LengthUnit where
  | inch
  | millimeter
  deriving DecidableEq

namespace LengthUnit

/-- The code by which instructions refer to the unit. -/
def code : LengthUnit → String
  | .inch => "in"
  | .millimeter => "mm"

/-- The unit with a given code. -/
def ofCode? : String → Option LengthUnit
  | "in" => some .inch
  | "mm" => some .millimeter
  | _ => none

/-- The words for units, longer ones before those they begin with. -/
def vocabulary : List (String × LengthUnit) :=
  [("inches", .inch), ("inch", .inch), ("in", .inch),
    ("millimeters", .millimeter), ("millimeter", .millimeter), ("mm", .millimeter)]

/-- The unit that a word names, in any case and with blanks around it. -/
def ofWord? (word : String) : Option LengthUnit :=
  vocabulary.lookup (String.ofList (Text.lower (Text.strip word.toList)))

/-- What is said of a word that names no unit. -/
def unknownMessage (word : String) : String :=
  "Unknown unit " ++ Text.quoted word ++
    ", expected one of ['in', 'inch', 'inches', 'millimeter', 'millimeters', 'mm']"

end LengthUnit

end Wireform
