import Wireform.Binary64.Basic
import Wireform.Text.Blank
import Wireform.Text.DecimalDigit

/-!
Reading numbers from text: blanks around it, a sign, then digits with an optional point and
exponent, or one of the words for an infinite or undefined number. Digits may be of any script,
and a single underscore may stand between two of them. The value is the closest double-precision
number to the decimal.
-/

namespace Wireform

namespace Binary64

/-- Blanks around a number: those of ASCII that end a word or a line, and all blanks beyond
ASCII. -/
def isNumberBlank (c : Char) : Bool :=
  Text.isAsciiBlank c || (0x7f ≤ c.toNat && Text.isBlank c)

/-- Does the text start with a digit? -/
def startsWithDigit : List Char → Bool
  | c :: _ => (Text.decimalDigit? c).isSome
  | [] => false

/-- The values of the digits at the front, and the rest. `inside` says that a digit stands before
the text, so that an underscore may come first. -/
def digitRunFrom (inside : Bool) : List Char → List Nat × List Char
  | [] => ([], [])
  | c :: cs =>
    match Text.decimalDigit? c with
    | some d =>
      let (ds, rest) := digitRunFrom true cs
      (d :: ds, rest)
    | none =>
      if c = '_' ∧ inside ∧ startsWithDigit cs then digitRunFrom false cs
      else ([], c :: cs)

/-- The values of the digits at the front, and the rest. -/
def digitRun (cs : List Char) : List Nat × List Char :=
  digitRunFrom false cs

/-- The number that a row of digits stands for. -/
def digitsValue (ds : List Nat) : Nat :=
  ds.foldl (fun n d => 10 * n + d) 0

/-- A sign at the front, and the rest. -/
def sign : List Char → Bool × List Char
  | '-' :: cs => (true, cs)
  | '+' :: cs => (false, cs)
  | cs => (false, cs)

/-- The exponent that makes up the whole of a text, zero if it is empty. -/
def exponent? : List Char → Option Int
  | [] => some 0
  | c :: cs =>
    if c = 'e' ∨ c = 'E' then
      let (negative, body) := sign cs
      let (ds, rest) := digitRun body
      if ds.isEmpty || !rest.isEmpty then none
      else some (if negative then -digitsValue ds else digitsValue ds)
    else none

/-- The places behind a point, and the rest. -/
def places : List Char → List Nat × List Char
  | '.' :: cs => digitRun cs
  | cs => ([], cs)

/-- The magnitude written as digits, point and exponent, given its sign. -/
def unsigned? (negative : Bool) (cs : List Char) : Option Binary64 :=
  let (whole, rest) := digitRun cs
  let (fraction, rest) := places rest
  if whole.isEmpty && fraction.isEmpty then none
  else (exponent? rest).map fun e =>
    ofDecimal negative (digitsValue (whole ++ fraction)) (e - fraction.length)

/-- The words for numbers that have no digits, in lower case. -/
def word? (negative : Bool) (w : List Char) : Option Binary64 :=
  match String.ofList w with
  | "inf" => some (.infinite negative)
  | "infinity" => some (.infinite negative)
  | "nan" => some .nan
  | _ => none

/-- The number that a text stands for, if it is one. -/
def ofChars? (cs : List Char) : Option Binary64 :=
  let (negative, body) := sign (Text.trim isNumberBlank cs)
  word? negative (body.map Char.toLower) <|> unsigned? negative body

/-- The number that a text stands for, if it is one. -/
def ofText? (s : String) : Option Binary64 :=
  ofChars? s.toList

end Binary64

end Wireform
