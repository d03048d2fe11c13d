import Mathlib.Data.List.DropRight
import Wireform.Program.Statement
import Wireform.Value.Json

/-!
JSON texts, read.

This is the other side of `Value.json`: `Json.decode` takes any JSON text, blanks and all escapes
included, and gives the value that it stands for. A number without places and exponent is a whole
number, and one with too many digits is refused. Of two entries with one name the later counts. Two
escapes for the halves of a pair stand for one character; a half that is alone stays what it is. As
in writing, only so many collections may be inside each other. Blanks in front of what is read make
no difference.
-/

namespace Wireform

/-- The character whose pair is made up of two halves, if the one is a first half and the other a
second one. -/
def Text.pairOf? : Text.CodePoint → Text.CodePoint → Option Char
  | .half a, .half b =>
    if a.val < 0x400 ∧ 0x400 ≤ b.val then
      some (Char.ofNat (0x10000 + a.val * 0x400 + (b.val - 0x400)))
    else none
  | _, _ => none

/-- Code points with each pair of halves in place of the character that it stands for. -/
def Text.joinPairs : List Text.CodePoint → List Text.CodePoint
  | a :: b :: cs =>
    match pairOf? a b with
    | some c => .char c :: joinPairs cs
    | none => a :: joinPairs (b :: cs)
  | cs => cs

namespace Json

open Text (CodePoint)

/-- Can the character stand between the parts of a text? -/
def isBlank (c : Char) : Bool :=
  c == ' ' || c == '\t' || c == '\n' || c == '\r'

/-- The text without the blanks in front. -/
def skipBlanks (cs : List Char) : List Char :=
  cs.dropWhile isBlank

/-! ## Strings -/

/-- The character for which a letter behind a backslash stands. -/
def escaped? : Char → Option Char
  | '"' => some '"'
  | '\\' => some '\\'
  | '/' => some '/'
  | 'b' => some '\x08'
  | 'f' => some '\x0c'
  | 'n' => some '\n'
  | 'r' => some '\r'
  | 't' => some '\t'
  | _ => none

/-- The code points up to the closing quote, and what follows. Control characters stand there as
escapes only. -/
def string? : List Char → Option (List CodePoint × List Char)
  | [] => none
  | '"' :: cs => some ([], cs)
  | '\\' :: 'u' :: a :: b :: c :: d :: cs => do
    let p ← (Text.hexValue? [a, b, c, d]).bind CodePoint.ofNat?
    let (ps, rest) ← string? cs
    some (p :: ps, rest)
  | '\\' :: c :: cs => do
    let e ← escaped? c
    let (ps, rest) ← string? cs
    some (.char e :: ps, rest)
  | c :: cs =>
    if c < ' ' then none
    else do
      let (ps, rest) ← string? cs
      some (.char c :: ps, rest)

/-! ## Numbers -/

/-- The digits in front, one at least, and what follows. -/
def digitRow? (cs : List Char) : Option (List Char × List Char) :=
  if cs.takeWhile Char.isDigit = [] then none
  else some (cs.takeWhile Char.isDigit, cs.dropWhile Char.isDigit)

/-- The places behind a point, none if there is no point. -/
def places? : List Char → Option (List Char × List Char)
  | '.' :: cs => digitRow? cs
  | cs => some ([], cs)

/-- The exponent in front, if there is one, and what follows. -/
def exponent? : List Char → Option (Option Int × List Char)
  | [] => some (none, [])
  | c :: cs =>
    if c = 'e' ∨ c = 'E' then do
      let (negative, body) := Binary64.sign cs
      let (row, rest) ← digitRow? body
      some (some (Binary64.signed negative (Statement.natOfDigits row)), rest)
    else some (none, c :: cs)

/-- The number without its sign that stands in front, and what follows. -/
def magnitude? (negative : Bool) (cs : List Char) : Option (Value × List Char) := do
  let (whole, rest) ← digitRow? cs
  if whole.head? = some '0' ∧ whole ≠ ['0'] then none
  else
    let (part, rest) ← places? rest
    match ← exponent? rest with
    | (none, rest) =>
      if part = [] then
        if Value.maxDigits < whole.length then none
        else some (.int (Binary64.signed negative (Statement.natOfDigits whole)), rest)
      else
        some (.number (.ofDecimal negative (Statement.natOfDigits (whole ++ part))
          (-(part.length : Int))), rest)
    | (some e, rest) =>
      some (.number (.ofDecimal negative (Statement.natOfDigits (whole ++ part))
        (e - part.length)), rest)

/-- The number in front, and what follows. -/
def number? : List Char → Option (Value × List Char)
  | '-' :: cs => magnitude? true cs
  | cs => magnitude? false cs

/-! ## Values -/

/-- The key of an entry up to the colon, and what follows. -/
def key? (cs : List Char) : Option (Value × List Char) := do
  let .cons '"' cs := skipBlanks cs | none
  let (ps, rest) ← string? cs
  let .cons ':' rest := skipBlanks rest | none
  some (.ofCodePoints (Text.joinPairs ps), rest)

mutual

/-- The value in front, and what follows; `room` is how many collections may be inside each other.
Each step takes a character at least, so the length of the text bounds the steps. -/
def value? : Nat → Nat → List Char → Option (Value × List Char)
  | 0, _, _ => none
  | n + 1, room, cs =>
    match skipBlanks cs with
    | '"' :: cs => (string? cs).map fun (ps, rest) => (.ofCodePoints (Text.joinPairs ps), rest)
    | '[' :: cs =>
      if room = 0 then none
      else if (skipBlanks cs).head? = some ']' then some (.list [], (skipBlanks cs).tail)
      else (items? n (room - 1) cs).map fun (vs, rest) => (.list vs, rest)
    | '\x7b' :: cs =>
      if room = 0 then none
      else if (skipBlanks cs).head? = some '\x7d' then some (.map [], (skipBlanks cs).tail)
      else (entries? n (room - 1) cs).map fun (es, rest) => (.ofEntries es, rest)
    | 'n' :: 'u' :: 'l' :: 'l' :: rest => some (.null, rest)
    | 't' :: 'r' :: 'u' :: 'e' :: rest => some (.bool true, rest)
    | 'f' :: 'a' :: 'l' :: 's' :: 'e' :: rest => some (.bool false, rest)
    | cs => number? cs

/-- The items up to the end of a list, one at least, and what follows. -/
def items? : Nat → Nat → List Char → Option (List Value × List Char)
  | 0, _, _ => none
  | n + 1, room, cs => do
    let (v, rest) ← value? n room cs
    match skipBlanks rest with
    | ',' :: rest => do
      let (vs, rest) ← items? n room rest
      some (v :: vs, rest)
    | ']' :: rest => some ([v], rest)
    | _ => none

/-- The entries up to the end of an object, one at least, and what follows. -/
def entries? : Nat → Nat → List Char → Option (List (Value × Value) × List Char)
  | 0, _, _ => none
  | n + 1, room, cs => do
    let (key, rest) ← key? cs
    let (v, rest) ← value? n room rest
    match skipBlanks rest with
    | ',' :: rest => do
      let (es, rest) ← entries? n room rest
      some ((key, v) :: es, rest)
    | '\x7d' :: rest => some ([(key, v)], rest)
    | _ => none

end

/-- The value for which a JSON text stands, with no more than `room` collections inside each
other. -/
def decode (room : Nat) (text : String) : Option Value :=
  match value? text.length room text.toList with
  | some (v, rest) => if skipBlanks rest = [] then some v else none
  | none => none

/-! ## Blanks -/

theorem skipBlanks_skipBlanks (cs : List Char) : skipBlanks (skipBlanks cs) = skipBlanks cs :=
  List.dropWhile_idempotent _ _

theorem skipBlanks_cons {c : Char} (noBlank : isBlank c = false) (cs : List Char) :
    skipBlanks (c :: cs) = c :: cs :=
  List.dropWhile_cons_of_neg (by rw [noBlank]; exact Bool.false_ne_true)

theorem skipBlanks_blank (cs : List Char) : skipBlanks (' ' :: cs) = skipBlanks cs :=
  rfl

theorem value?_skipBlanks (n room : Nat) (cs : List Char) :
    value? n room (skipBlanks cs) = value? n room cs := by
  cases n with
  | zero => rw [value?, value?]
  | succ n => rw [value?, value?, skipBlanks_skipBlanks]

theorem value?_blank (n room : Nat) (cs : List Char) :
    value? n room (' ' :: cs) = value? n room cs := by
  rw [← value?_skipBlanks, skipBlanks_blank, value?_skipBlanks]

theorem items?_skipBlanks (n room : Nat) (cs : List Char) :
    items? n room (skipBlanks cs) = items? n room cs := by
  cases n with
  | zero => rw [items?, items?]
  | succ n => rw [items?, items?, value?_skipBlanks]

theorem items?_blank (n room : Nat) (cs : List Char) :
    items? n room (' ' :: cs) = items? n room cs := by
  rw [← items?_skipBlanks, skipBlanks_blank, items?_skipBlanks]

theorem key?_skipBlanks (cs : List Char) : key? (skipBlanks cs) = key? cs := by
  rw [key?, key?, skipBlanks_skipBlanks]

theorem entries?_skipBlanks (n room : Nat) (cs : List Char) :
    entries? n room (skipBlanks cs) = entries? n room cs := by
  cases n with
  | zero => rw [entries?, entries?]
  | succ n => rw [entries?, entries?, key?_skipBlanks]

theorem entries?_blank (n room : Nat) (cs : List Char) :
    entries? n room (' ' :: cs) = entries? n room cs := by
  rw [← entries?_skipBlanks, skipBlanks_blank, entries?_skipBlanks]

end Json

end Wireform
