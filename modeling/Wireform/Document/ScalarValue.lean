import Wireform.Document.Scalar
import Wireform.Document.Tag
import Wireform.Text.LetterCase

/-!
The values of scalars, read by the type that they have.
-/

namespace Wireform.Document

open Text (CodePoint)

/-- The value of a digit in a base up to 16. -/
def digitIn? (base : Nat) (c : Char) : Option Nat :=
  ((Text.decimalDigit? c).orElse fun _ => Text.hexDigit? c).filter (· < base)

/-- The mark that a number in a base may start with. -/
def baseMark : Nat → List Char
  | 2 => ['b', 'B']
  | 8 => ['o', 'O']
  | 16 => ['x', 'X']
  | _ => []

/-- The digits of a number without the mark of its base. -/
def dropMark (base : Nat) : List Char → List Char
  | '0' :: c :: cs => if (baseMark base).contains c then cs else '0' :: c :: cs
  | cs => cs

/-- The whole number that a text spells in a base. Numbers in base 10 are limited in length. -/
def wholeNumber (base : Nat) (text : List CodePoint) : Except DocumentError Int :=
  let cs := text.map CodePoint.marked
  let (negative, body) := Binary64.sign (Text.trim Binary64.isNumberBlank cs)
  let body := dropMark base body
  let digits := (body.takeWhile fun c => (digitIn? base c).isSome).filterMap (digitIn? base)
  if base = 10 ∧ Statement.maxCountDigits < digits.length then .error (.tooManyDigits digits.length)
  else if digits.isEmpty ∨ digits.length < body.length then
    .error (.wholeNumber base (Text.quotedCodes text))
  else
    let n := digits.foldl (fun n d => base * n + d) 0
    .ok (if negative then -n else n)

/-- The number with the given parts in base 60. -/
def sixtieths (parts : List Int) : Int :=
  parts.foldl (fun n d => 60 * n + d) 0

/-- Is the first character a minus? -/
def isNegative (text : List CodePoint) : Bool :=
  text.head? == some (.char '-')

/-- A number without its sign. -/
def unsigned : List CodePoint → List CodePoint
  | .char c :: cs => if c = '+' ∨ c = '-' then cs else .char c :: cs
  | cs => cs

/-- A number without the underscores between its digits. -/
def dropUnderscores (text : List CodePoint) : List CodePoint :=
  text.filter (· != .char '_')

/-- The value of a scalar with the type of whole numbers. -/
def intValue (text : List CodePoint) : Except DocumentError Value :=
  let cs := dropUnderscores text
  let magnitude : Except DocumentError Int :=
    match unsigned cs with
    | [] => .error .emptyNumber
    | [.char '0'] => .ok 0
    | .char '0' :: .char 'b' :: ds => wholeNumber 2 ds
    | .char '0' :: .char 'x' :: ds => wholeNumber 16 ds
    | .char '0' :: ds => wholeNumber 8 (.char '0' :: ds)
    | body => ((splitAt (.char ':') body).mapM (wholeNumber 10)).map sixtieths
  magnitude.map fun n => .int (if isNegative cs then -n else n)

/-- The number that a text spells. -/
def numberOf (text : List CodePoint) : Except DocumentError Binary64 :=
  match Binary64.ofChars? (text.map CodePoint.marked) with
  | some x => .ok x
  | none => .error (.number (.unreadable (Text.quotedCodes text)))

/-- Adds up parts in base 60, lowest first, rounding at each step. -/
def sumSixtieths (sum : Binary64) (scale : Nat) : List Binary64 → Except DocumentError Binary64
  | [] => .ok sum
  | x :: xs =>
    match Binary64.ofInt? scale with
    | some s => sumSixtieths (sum.add (x.mul s)) (scale * 60) xs
    | none => .error (.number .tooLarge)

/-- The text of a number as it is read: in lower case, without underscores. -/
def numberText (text : List CodePoint) : List CodePoint :=
  Text.lowerWords (dropUnderscores text)

/-- Does the text spell the undefined number by its own name? -/
def namesUndefined (text : List CodePoint) : Bool :=
  unsigned (numberText text) == Text.codePoints ".nan"

/-- The value of a scalar with the type of numbers. -/
def floatValue (text : List CodePoint) : Except DocumentError Value := do
  let cs := numberText text
  if cs.isEmpty then throw .emptyNumber
  let body := unsigned cs
  let magnitude ←
    if body = Text.codePoints ".inf" then pure (Binary64.infinite false)
    else if body = Text.codePoints ".nan" then pure Binary64.nan
    else if body.contains (.char ':') then do
      let parts ← (splitAt (.char ':') body).mapM numberOf
      sumSixtieths Binary64.zero 1 parts.reverse
    else numberOf body
  return .number (if isNegative cs then magnitude.neg else magnitude)

/-- The value of a scalar with the type of truth values. -/
def truthValue (text : List CodePoint) : Except DocumentError Value :=
  let word := Text.lowerWords text
  match truthWords.lookup (String.ofList (word.map CodePoint.marked)) with
  | some b => .ok (.bool b)
  | none => .error (.truthValue (Text.quotedCodes word))

/-- The value of a digit in base 64. -/
def base64Digit? (c : Char) : Option Nat :=
  if 'A' ≤ c ∧ c ≤ 'Z' then some (c.toNat - 'A'.toNat)
  else if 'a' ≤ c ∧ c ≤ 'z' then some (c.toNat - 'a'.toNat + 26)
  else if '0' ≤ c ∧ c ≤ '9' then some (c.toNat - '0'.toNat + 52)
  else if c = '+' then some 62
  else if c = '/' then some 63
  else none

/-- The bytes of a text in base 64. `place` counts the digits since the last full group of four,
`bits` are those of the last digit not used yet, and `pads` are the signs that fill up a group. A
full group may end the text early; other characters do not count. -/
def base64From (place bits pads : Nat) : List Char → Option (List UInt8)
  | [] => if place = 0 then some [] else none
  | c :: cs =>
    if c = '=' then
      if 2 ≤ place then
        if 4 ≤ place + (pads + 1) then some [] else base64From place bits (pads + 1) cs
      else base64From place bits pads cs
    else
      match base64Digit? c with
      | none => base64From place bits pads cs
      | some d =>
        match place with
        | 0 => base64From 1 d 0 cs
        | 1 => (base64From 2 (d % 16) 0 cs).map ((bits * 4 + d / 16).toUInt8 :: ·)
        | 2 => (base64From 3 (d % 4) 0 cs).map ((bits * 16 + d / 4).toUInt8 :: ·)
        | _ => (base64From 0 0 0 cs).map ((bits * 64 + d).toUInt8 :: ·)

/-- The value of a scalar with the type of bytes. -/
def binaryValue (text : List CodePoint) : Except DocumentError Value :=
  if text.all (·.toNat < 0x80) then
    match base64From 0 0 0 (text.map CodePoint.marked) with
    | some bytes => .ok (.bytes bytes)
    | none => .error .malformed
  else .error .malformed

/-- The distance from world time, which is less than a day. -/
def checkOffset (minutes : Int) : Except CalendarError Int :=
  if 1440 ≤ minutes ∨ minutes ≤ -1440 then .error (.offset minutes) else .ok minutes

/-- The date or moment with the given parts, if it exists. -/
def Stamp.value (s : Stamp) : Except CalendarError Value := do
  match s.time with
  | none => return .date (← s.date.check)
  | some time =>
    let offset ← s.offset.mapM checkOffset
    return .moment { date := ← s.date.check, time := ← time.check, offset }

/-- The value of a scalar with the type of dates and moments. A line end behind it does not
count. -/
def timestampValue (text : List CodePoint) : Except DocumentError Value :=
  let cs := text.map CodePoint.marked
  match stamp? (if cs.getLast? = some '\n' then cs.dropLast else cs) with
  | some s => s.value.mapError .calendar
  | none => .error .noMoment

/-- The value of a scalar with its type. -/
def scalarValue (tag : Tag) (text : List CodePoint) : Except DocumentError Value :=
  match tag with
  | .null => .ok .null
  | .str => .ok (.ofCodePoints text)
  | .bool => truthValue text
  | .int => intValue text
  | .float => floatValue text
  | .binary => binaryValue text
  | .timestamp => timestampValue text
  | _ => .error .malformed

end Wireform.Document
