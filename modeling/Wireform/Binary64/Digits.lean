import Wireform.Binary64.Basic

/-!
Numbers as decimal text.

* `Binary64.fixed`: the exact value rounded to a number of places, a half going to the even digit.
* `Binary64.shortest`: the fewest digits that read back as the same number, and of those the
  closest to it.
* `Binary64.text`: the shortest digits, laid out positionally unless the exponent is far from zero.
-/

namespace Wireform

namespace Binary64

/-- The decimal digits of a whole number. -/
def digits (n : Nat) : List Char :=
  Nat.toDigits 10 n

/-- The digits of a whole number, with zeros in front up to a width. -/
def paddedDigits (width n : Nat) : List Char :=
  List.replicate (width - (digits n).length) '0' ++ digits n

/-- The sign in front of a number. -/
def signMark (negative : Bool) : List Char :=
  if negative then ['-'] else []

/-- The text of `n / 10 ^ places`. -/
def pointed (places n : Nat) : List Char :=
  digits (n / Nat.pow 10 places) ++
    if places = 0 then [] else '.' :: paddedDigits places (n % Nat.pow 10 places)

/-- What is written for a number that is not finite. -/
def nonFinite : Binary64 → List Char
  | .infinite negative => signMark negative ++ ['i', 'n', 'f']
  | _ => ['n', 'a', 'n']

/-- The number with a fixed count of places. The sign stays even where only zeros are left. -/
def fixed (places : Nat) : Binary64 → String
  | .finite negative units _ =>
    String.ofList
      (signMark negative ++ pointed places (roundHalfEven (units * Nat.pow 10 places) one))
  | x => String.ofList (nonFinite x)

/-- A decimal `coefficient * 10 ^ exponent`. -/
structure Decimal where
  coefficient : Nat
  exponent : Int
  deriving DecidableEq

/-- Units of `2 ^ -1074` counted in units of `10 ^ -1074`: the decimal expansion of a finite number
stops there, so this is exact. -/
def expansion (units : Nat) : Nat :=
  units * Nat.pow 5 unitPlaces

/-- Does a count of units of `10 ^ -1074` round to the given count of units of `2 ^ -1074`? -/
def readsBack (units decimal : Nat) : Bool :=
  nearestUnits (decimal * one) (Nat.pow 10 unitPlaces) == units

/-- The multiple of `grid` next to the expansion that reads back, the closer one if both do. -/
def onGrid? (units grid : Nat) : Option Nat :=
  let exact := expansion units
  let below := exact / grid
  let low := readsBack units (below * grid)
  let high := readsBack units ((below + 1) * grid)
  let rest := 2 * (exact % grid)
  if low && (!high || rest < grid || (rest == grid && below % 2 == 0)) then some below
  else if high then some (below + 1)
  else none

/-- The decimal on the grid of `10 ^ j` that reads back. Grids coarser than the expansion are passed
over. -/
def decimalOn? (units j : Nat) : Option Decimal :=
  let grid := Nat.pow 10 j
  if expansion units < grid then none
  else (onGrid? units grid).map fun c => ⟨c, j - unitPlaces⟩

/-- An exponent that no power of ten up to `n` goes beyond: a binary digit is worth less than
0.30103 decimal ones. -/
def greatestExponent (n : Nat) : Nat :=
  n.log2 * 30103 / 100000 + 1

/-- The decimal with the fewest digits that reads back as the magnitude, and of those the closest
to it: the one on the first grid, from coarse to fine, that has one. On the finest of all it is the
expansion itself. -/
def shortest (units : Nat) : Decimal :=
  let grids := (List.range (greatestExponent (expansion units) + 1)).reverse
  (grids.findSome? (decimalOn? units)).getD ⟨expansion units, -unitPlaces⟩

/-- How shortest digits are laid out: positionally for exponents from `least` to below `bound`,
otherwise with a marked, signed exponent of two digits or more. -/
structure Layout where
  least : Int
  bound : Int
  mark : Char

/-- The layout of numbers in messages. -/
def plainLayout : Layout := ⟨-4, 16, 'e'⟩

/-- An exponent behind its mark. -/
def exponentText (mark : Char) (exponent : Int) : List Char :=
  mark :: (if exponent < 0 then '-' else '+') :: paddedDigits 2 exponent.natAbs

/-- Digits and the place of the point, counted from their left end, laid out. -/
def Layout.write (layout : Layout) (ds : List Char) (point : Int) : List Char :=
  if layout.least ≤ point - 1 ∧ point - 1 < layout.bound then
    if point ≤ 0 then ['0', '.'] ++ List.replicate (-point).toNat '0' ++ ds
    else if ds.length ≤ point.toNat then
      ds ++ List.replicate (point.toNat - ds.length) '0' ++ ['.', '0']
    else ds.take point.toNat ++ '.' :: ds.drop point.toNat
  else
    ds.take 1 ++ (if ds.length ≤ 1 then [] else '.' :: ds.drop 1) ++
      exponentText layout.mark (point - 1)

/-- The digits of a coefficient without the zeros at the end. -/
def significantDigits (coefficient : Nat) : List Char :=
  ((digits coefficient).reverse.dropWhile (· == '0')).reverse

/-- The shortest text of a number. -/
def chars : Binary64 → List Char
  | .finite negative units _ =>
    signMark negative ++
      if units = 0 then ['0', '.', '0']
      else
        let d := shortest units
        plainLayout.write (significantDigits d.coefficient)
          (d.exponent + (digits d.coefficient).length)
  | x => nonFinite x

/-- The shortest text of a number. -/
def text (x : Binary64) : String :=
  String.ofList x.chars

/-- The shortest text, save that a whole number is written without point or exponent, and zero
without a sign. -/
def compact : Binary64 → String
  | .finite negative units h =>
    if units % one = 0 then
      String.ofList (signMark (negative && units != 0) ++ digits (units / one))
    else text (.finite negative units h)
  | x => text x

end Binary64

end Wireform
