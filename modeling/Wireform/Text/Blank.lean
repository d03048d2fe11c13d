/-!
Blank characters and what is left of a text when they are taken off both ends. The table covers
all scripts; the zero-width space and the byte-order mark are not blank.
-/

namespace Wireform.Text

/-- Is the character a blank of any script? -/
def isBlank (c : Char) : Bool :=
  let n := c.toNat
  (0x09 ≤ n && n ≤ 0x0d) || (0x1c ≤ n && n ≤ 0x20) || n == 0x85 || n == 0xa0 || n == 0x1680 ||
    (0x2000 ≤ n && n ≤ 0x200a) || n == 0x2028 || n == 0x2029 || n == 0x202f || n == 0x205f ||
    n == 0x3000

/-- Is the character one of the six blanks of ASCII: space, tab and the four line or page ends? -/
def isAsciiBlank (c : Char) : Bool :=
  c == ' ' || (0x09 ≤ c.toNat && c.toNat ≤ 0x0d)

/-- The text without the characters of a class at either end. -/
def trim (p : Char → Bool) (s : List Char) : List Char :=
  ((s.dropWhile p).reverse.dropWhile p).reverse

/-- The text without blanks at either end. -/
def strip (s : List Char) : List Char :=
  trim isBlank s

end Wireform.Text
