import Wireform.Binary64.Digits

/-!
Numbers with a given count of digits: with an exponent, or in whichever of the two forms suits the
number. As with fixed places, the exact value is rounded and a half goes to the even digit.
-/

namespace Wireform

namespace Binary64

/-- The most digits of an exact value: 309 in front of the point and 1074 behind it. -/
def mostDigits : Nat := 1383

/-- The magnitude rounded to so many digits, at least one: the digits, and the exponent of the
first. -/
def rounded (count units : Nat) : List Char × Int :=
  if units = 0 then (List.replicate count '0', 0)
  else
    let exact := digits (expansion units)
    let exponent : Int := (exact.length : Int) - 1075
    if exact.length ≤ count then (exact ++ List.replicate (count - exact.length) '0', exponent)
    else
      let kept := roundHalfEven (expansion units) (Nat.pow 10 (exact.length - count))
      if kept = Nat.pow 10 count then (digits (Nat.pow 10 (count - 1)), exponent + 1)
      else (digits kept, exponent)

/-- Digits with a point behind the first one; `mark` keeps a point that nothing follows. -/
def afterFirst (mark : Bool) (ds : List Char) : List Char :=
  ds.take 1 ++ if 1 < ds.length then '.' :: ds.drop 1 else if mark then ['.'] else []

/-- The magnitude with a point, so many places and an exponent. -/
def scientificDigits (places : Nat) (mark : Bool) (units : Nat) : List Char :=
  let (ds, exponent) := rounded (places + 1) units
  afterFirst mark ds ++ exponentText 'e' exponent

/-- The magnitude with fixed places; `mark` keeps a point that nothing follows. An exact value ends
after as many places as a unit has, and zeros follow. -/
def fixedDigits (places : Nat) (mark : Bool) (units : Nat) : List Char :=
  let exact := min places unitPlaces
  pointed exact (roundHalfEven (units * Nat.pow 10 exact) one) ++
    List.replicate (places - exact) '0' ++ if places = 0 && mark then ['.'] else []

/-- A row of digits without the zeros at its end. -/
def dropZeros (ds : List Char) : List Char :=
  (ds.reverse.dropWhile (· == '0')).reverse

/-- The magnitude with so many digits: positional unless the exponent is below minus four or the
digits do not reach the point. Zeros at the end go unless `mark` keeps them. -/
def generalDigits (count : Nat) (mark : Bool) (units : Nat) : List Char :=
  let count := max count 1
  let (ds, exponent) := rounded (if mark then count else min count mostDigits) units
  if -4 ≤ exponent ∧ exponent < count then
    let whole := if exponent < 0 then ['0'] else ds.take (exponent.toNat + 1)
    let part :=
      if exponent < 0 then List.replicate (-exponent - 1).toNat '0' ++ ds
      else ds.drop (exponent.toNat + 1)
    let part := if mark then part else dropZeros part
    whole ++ if part.isEmpty && !mark then [] else '.' :: part
  else
    let ds := if mark then ds else ds.take 1 ++ dropZeros (ds.drop 1)
    afterFirst mark ds ++ exponentText 'e' exponent

/-- A number whose magnitude is written by a rule. -/
def writtenBy (rule : Nat → List Char) : Binary64 → List Char
  | .finite negative units _ => signMark negative ++ rule units
  | x => nonFinite x

end Binary64

end Wireform
