/-!
Code points. Nearly all of them are characters. The others are the halves of surrogate pairs: no
character has their numbers, but an escape by number can put one into a text, where it stays what it
is even if the other half stands beside it.
-/

namespace Wireform.Text

/-- A code point: a character, or the half of a surrogate pair, counted from the first of them. -/
inductive CodePoint where
  | char (c : Char)
  | half (n : Fin 2048)
  deriving DecidableEq

/-- The number of the first half of a pair. -/
def firstHalf : Nat := 0xd800

namespace CodePoint

/-- The code point with a number, if there is one. -/
def ofNat? (n : Nat) : Option CodePoint :=
  if h : firstHalf ≤ n ∧ n < firstHalf + 2048 then some (.half ⟨n - firstHalf, by omega⟩)
  else if n < 0x110000 then some (.char (Char.ofNat n))
  else none

/-- The number of a code point. -/
def toNat : CodePoint → Nat
  | .char c => c.toNat
  | .half n => firstHalf + n

/-- The character, or a question mark for a half of a pair. Numbers and dates have neither in them,
so a text is one of these if the marked text is. -/
def marked : CodePoint → Char
  | .char c => c
  | .half _ => '?'

/-- The character, if it is one. -/
def char? : CodePoint → Option Char
  | .char c => some c
  | .half _ => none

end CodePoint

/-- The code points of a text. -/
def codePoints (s : String) : List CodePoint :=
  s.toList.map .char

/-- The text with some code points, if all of them are characters. -/
def ofCodePoints? (cs : List CodePoint) : Option String :=
  (cs.mapM CodePoint.char?).map String.ofList

end Wireform.Text
