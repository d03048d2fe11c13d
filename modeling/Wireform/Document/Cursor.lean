import Wireform.Document.Error

/-!
A place in a document text: what is left of it, and how far, on which line and in which column the
place is. Line ends are line feeds here, next to the three other characters that end a line. The
text may end because there is no more of it, or because what follows cannot be read; in that case a
look beyond the end is an error.
-/

namespace Wireform.Document

/-- A place in a text. -/
structure Cursor where
  rest : List Char
  /-- Why what follows the rest cannot be read. -/
  flaw : Option DocumentError := none
  index : Nat := 0
  line : Nat := 0
  column : Nat := 0
  deriving Inhabited

/-- Does the character end a line? -/
def isBreak (c : Char) : Bool :=
  c == '\n' || c == '\x85' || c == '\u2028' || c == '\u2029'

/-- What a line end counts for inside a scalar. -/
def breakText (c : Char) : Char :=
  if c = '\x85' then '\n' else c

/-- Does the character, or the end of the text, part words? -/
def partsWords : Option Char → Bool
  | none => true
  | some c => c == ' ' || c == '\t' || isBreak c

/-- Does the character, or the end of the text, end a line or part words, tabs not counting? -/
def spaceOrEnd : Option Char → Bool
  | none => true
  | some c => c == ' ' || isBreak c

/-- Does the character, or the end of the text, end a line? -/
def endsLine : Option Char → Bool
  | none => true
  | some c => isBreak c

/-- Letters, digits, hyphen and underscore make up names. -/
def isNameChar (c : Char) : Bool :=
  c.isAlphanum || c == '-' || c == '_'

namespace Cursor

/-- Looks at the end of the text. -/
def atEnd (c : Cursor) : Except DocumentError Unit :=
  match c.flaw with
  | some e => .error e
  | none => .ok ()

/-- Looks at the first of some characters that are left. -/
def first (c : Cursor) : List Char → Except DocumentError (Option Char)
  | ch :: _ => .ok (some ch)
  | [] => c.atEnd.map fun _ => none

/-- The next character. -/
def peek (c : Cursor) : Except DocumentError (Option Char) :=
  c.first c.rest

/-- The character after the next one. -/
def second (c : Cursor) : Except DocumentError (Option Char) :=
  c.first c.rest.tail

/-- The place behind a character, the text that follows being `rest`. A byte-order mark takes up no
column. -/
def past (c : Cursor) (ch : Char) (rest : List Char) : Cursor :=
  if isBreak ch then { c with rest, index := c.index + 1, line := c.line + 1, column := 0 }
  else
    { c with
      rest, index := c.index + 1
      column := if ch = '\ufeff' then c.column else c.column + 1 }

/-- The place behind the next character. -/
def next (c : Cursor) : Cursor :=
  match c.rest with
  | [] => c
  | ch :: rest => c.past ch rest

/-- The place `n` characters on. -/
def skip (c : Cursor) : Nat → Cursor
  | 0 => c
  | n + 1 => (c.next).skip n

/-- The place `n` characters on, with a look at the character there. -/
def advance (c : Cursor) (n : Nat) : Except DocumentError Cursor := do
  let c := c.skip n
  let _ ← c.peek
  return c

/-- The characters at the front that are of a class. -/
def run (c : Cursor) (p : Char → Bool) : Except DocumentError (List Char) := do
  let found := c.rest.takeWhile p
  let _ ← c.first (c.rest.drop found.length)
  return found

/-- The place behind the characters at the front that are of a class. -/
def skipWhile (c : Cursor) (p : Char → Bool) : Except DocumentError Cursor := do
  return c.skip (← c.run p).length

/-- The place at the end of the line. -/
def skipLine (c : Cursor) : Except DocumentError Cursor :=
  c.skipWhile fun ch => !isBreak ch

/-- Does a marker between documents stand in front of the characters that are left? -/
def startsMarker (c : Cursor) : List Char → Except DocumentError Bool
  | x :: y :: z :: rest =>
    if x = y ∧ y = z ∧ (z = '-' ∨ z = '.') then (c.first rest).map partsWords else .ok false
  | _ => c.atEnd.map fun _ => false

/-- The place behind the blanks, remarks and line ends that part tokens. `remark` says that a remark
has begun, `broken` that a line has ended. -/
def gapFrom (c : Cursor) (remark broken : Bool) : List Char → Except DocumentError (Bool × Cursor)
  | [] => c.atEnd.map fun _ => (broken, { c with rest := [] })
  | ch :: rest =>
    if isBreak ch then gapFrom (c.past ch rest) false true rest
    else if remark || ch == ' ' then gapFrom (c.past ch rest) remark broken rest
    else if ch == '#' then gapFrom (c.past ch rest) true broken rest
    else .ok (broken, { c with rest := ch :: rest })

/-- Whether a line ends before the next token, and the place where that token begins. -/
def gap (c : Cursor) : Except DocumentError (Bool × Cursor) :=
  let c := if c.index = 0 ∧ c.rest.head? = some '\ufeff' then c.next else c
  c.gapFrom false false c.rest

end Cursor

end Wireform.Document
