import Wireform.Text.CodePoint
import Wireform.Text.Hex
import Wireform.Text.Printable

/-!
Quoted text, as messages show it: between single quotes, or between double quotes if the text has
a single quote and no double one. A backslash, the quote in use and whatever is not printable are
written as escapes, so a quoted text is one printable line and shows where it begins and ends.
-/

namespace Wireform.Text

/-- The quote to use for a text. -/
def quoteFor (s : List Char) : Char :=
  if s.contains '\'' && !s.contains '"' then '"' else '\''

/-- The escape that stands for a code point, with as few hexadecimal digits as its size allows. -/
def codeEscape (n : Nat) : List Char :=
  if n < 0x100 then '\\' :: 'x' :: hex 2 n
  else if n < 0x10000 then '\\' :: 'u' :: hex 4 n
  else '\\' :: 'U' :: hex 8 n

/-- One character of a quoted text. -/
def quotedChar (quote c : Char) : List Char :=
  if c = quote ∨ c = '\\' then ['\\', c]
  else if c = '\n' then ['\\', 'n']
  else if c = '\r' then ['\\', 'r']
  else if c = '\t' then ['\\', 't']
  else if isPrintable c then [c]
  else codeEscape c.toNat

/-- The text between quotes. -/
def quoted (s : String) : String :=
  let q := quoteFor s.toList
  String.ofList (q :: s.toList.flatMap (quotedChar q) ++ [q])

/-- The same for code points; a half of a pair is written as an escape. -/
def quotedCodes (cs : List CodePoint) : String :=
  let q := quoteFor (cs.map CodePoint.marked)
  let shown := cs.flatMap fun
    | .char c => quotedChar q c
    | .half n => codeEscape (firstHalf + n)
  String.ofList (q :: shown ++ [q])

/-- The code points as text; a half of a pair is written as an escape. -/
def withEscapes (cs : List CodePoint) : String :=
  String.ofList (cs.flatMap fun
    | .char c => [c]
    | .half n => codeEscape (firstHalf + n))

/-- Bytes between quotes, after the mark that tells them from text: those that are printable ASCII
are shown as they are. -/
def quotedBytes (bytes : List UInt8) : String :=
  let cs := bytes.map fun b => Char.ofNat b.toNat
  let q := quoteFor cs
  let shown := cs.flatMap fun c => if c.toNat < 0x80 then quotedChar q c else codeEscape c.toNat
  String.ofList ('b' :: q :: shown ++ [q])

end Wireform.Text
