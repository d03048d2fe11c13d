import Wireform.Program.Statement
import Wireform.Text.Utf8
import Wireform.Value

/-!
Why a document cannot be read. Whatever breaks the rules of the format is one cause; the others are
bytes that are no text, and scalars whose text does not make a value of the type they have.
-/

namespace Wireform

/-- Why a document cannot be read. -/
inductive DocumentError where
  | malformed
  /-- Bytes that are no text. -/
  | undecodable (e : Text.DecodeError)
  /-- An escape for a character beyond the last one. -/
  | charCode
  /-- An escape for a character whose number is out of range altogether. -/
  | charNumber
  /-- A text that is no whole number in the base, as messages show it. -/
  | wholeNumber (base : Nat) (shown : String)
  /-- A whole number of so many digits, too long to be read. -/
  | tooManyDigits (digits : Nat)
  /-- A number without a single character. -/
  | emptyNumber
  | number (e : NumberError)
  /-- A word that stands for neither truth value, as messages show it. -/
  | truthValue (shown : String)
  | calendar (e : CalendarError)
  /-- A text that is neither a date nor a moment. -/
  | noMoment
  /-- Entries where a date or moment belongs. -/
  | entriesForMoment
  /-- Collections inside each other, or default values that stand for others, go too deep. -/
  | tooDeep
  deriving DecidableEq

/-- The most characters of a text that a message about a whole number shows. -/
def shownDigits : Nat := 200

/-- The error in words. -/
def DocumentError.message : DocumentError → String
  | .malformed => "malformed document"
  | .undecodable e => e.message
  | .charCode => "chr() arg not in range(0x110000)"
  | .charNumber => "Python int too large to convert to C int"
  | .wholeNumber base shown =>
    "invalid literal for int() with base " ++ toString base ++ ": " ++
      String.ofList (shown.toList.take shownDigits)
  | .tooManyDigits digits => tooManyDigitsMessage digits
  | .emptyNumber => "string index out of range"
  | .number e => e.message
  | .truthValue shown => shown
  | .calendar e => e.message
  | .noMoment => "'NoneType' object has no attribute 'groupdict'"
  | .entriesForMoment => "expected string or bytes-like object, got 'list'"
  | .tooDeep => "maximum recursion depth exceeded"

end Wireform
