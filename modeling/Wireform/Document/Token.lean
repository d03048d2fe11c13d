import Wireform.Document.Scalar
import Wireform.Text.Utf8

/-!
The tokens of a document. Indentation becomes tokens that open and close blocks. A key without a
mark of its own is known only from the colon behind it, so a place where one might begin is
remembered, and the tokens that open it are put there afterwards. A token is handed over once no
other can come before it, and reading goes no further than that takes; so the tokens in front of an
error are those that can be used before it comes up.
-/

namespace Wireform.Document

open Text (CodePoint)

/-- The tokens of a document. -/
inductive Token where
  | version (major : Nat)
  | handle (name expansion : String)
  | otherDirective
  | documentStart
  | documentEnd
  | streamEnd
  | blockSequence
  | blockMapping
  | blockEnd
  | flowSequence
  | flowSequenceEnd
  | flowMapping
  | flowMappingEnd
  | blockEntry
  | flowEntry
  | key
  | value
  | reference (name : String)
  | anchor (name : String)
  | tag (handle : Option String) (suffix : String)
  | scalar (text : List CodePoint) (plain : Bool)
  deriving DecidableEq

/-- A place where a key might begin: how many tokens stand before it, whether nothing but a key can
stand there, and where it is. -/
structure KeyPlace where
  number : Nat
  required : Bool
  index : Nat
  line : Nat
  column : Nat

/-- The state of reading tokens: the length of the text, the place in it, the open brackets, the
indentation of the innermost block and of those around it, whether a key may begin here, the places
where keys might begin for each depth of brackets, the tokens so far, newest first, and whether the
text has come to its end. -/
structure Lexer where
  size : Nat
  cursor : Cursor
  flow : Nat := 0
  indent : Int := -1
  indents : List Int := []
  keyAllowed : Bool := true
  places : List (Nat × KeyPlace) := []
  tokens : List Token := []
  count : Nat := 0
  ended : Bool := false

namespace Lexer

/-- Adds a token. -/
def emit (s : Lexer) (t : Token) : Lexer :=
  { s with tokens := t :: s.tokens, count := s.count + 1 }

/-- Puts a token in front of all but the first `number` tokens. -/
def emitAt (s : Lexer) (number : Nat) (t : Token) : Lexer :=
  let later := s.count - number
  { s with tokens := s.tokens.take later ++ t :: s.tokens.drop later, count := s.count + 1 }

/-- The place where a key might begin at the present depth of brackets. -/
def place? (s : Lexer) : Option KeyPlace :=
  s.places.lookup s.flow

/-- Forgets that place. -/
def forget (s : Lexer) : Lexer :=
  { s with places := s.places.filter (·.1 ≠ s.flow) }

/-- Gives up that place, which is an error if a key had to be there. -/
def giveUp (s : Lexer) : Except DocumentError Lexer :=
  match s.place? with
  | some p => if p.required then .error .malformed else .ok s.forget
  | none => .ok s

/-- Is the place too far back for a key to begin there? A key stays on one line and is short. -/
def isStale (s : Lexer) (p : KeyPlace) : Bool :=
  p.line ≠ s.cursor.line || 1024 < s.cursor.index - p.index

/-- Gives up the places that are too far back. -/
def giveUpStale (s : Lexer) : Except DocumentError Lexer :=
  if s.places.any fun p => p.2.required && s.isStale p.2 then .error .malformed
  else .ok { s with places := s.places.filter fun p => !s.isStale p.2 }

/-- Remembers that a key might begin here. -/
def remember (s : Lexer) : Except DocumentError Lexer :=
  if s.keyAllowed then do
    let s ← s.giveUp
    let p : KeyPlace :=
      { number := s.count, required := s.flow = 0 ∧ s.indent = s.cursor.column,
        index := s.cursor.index, line := s.cursor.line, column := s.cursor.column }
    return { s with places := (s.flow, p) :: s.places }
  else .ok s

/-- Closes the blocks that are indented further than a column. -/
def unwindFrom (s : Lexer) (column : Int) : List Int → Lexer
  | [] => s
  | outer :: rest =>
    if column < s.indent then
      unwindFrom ({ s with indent := outer, indents := rest }.emit .blockEnd) column rest
    else s

/-- Closes the blocks that are indented further than a column; brackets keep them open. -/
def unwind (s : Lexer) (column : Int) : Lexer :=
  if s.flow = 0 then s.unwindFrom column s.indents else s

/-- Opens a block at a column, if that is further in than the innermost one: whether it is. -/
def deepen (s : Lexer) (column : Nat) : Bool × Lexer :=
  if s.indent < column then
    (true, { s with indent := column, indents := s.indent :: s.indents })
  else (false, s)

/-- Opens a block with a token at a column outside brackets, where a key must be allowed. -/
def openBlock (s : Lexer) (t : Token) : Except DocumentError Lexer :=
  if s.flow = 0 then
    if s.keyAllowed then
      let (opened, s) := s.deepen s.cursor.column
      .ok (if opened then s.emit t else s)
    else .error .malformed
  else .ok s

/-- Adds a token that takes `n` characters. -/
def take (s : Lexer) (n : Nat) (t : Token) : Except DocumentError Lexer := do
  return { s with cursor := ← s.cursor.advance n }.emit t

/-! ## Names, tags and directives -/

/-- The value of two hexadecimal digits. -/
def escapedByte? : List Char → Option UInt8
  | a :: b :: _ => (Text.hexValue? [a, b]).map (·.toUInt8)
  | _ => none

/-- Characters that stand for themselves in the name of a tag. -/
def isTagChar (c : Char) : Bool :=
  c.isAlphanum || "-;/?:@&=+$,_.!~*'()[]".toList.contains c

/-- The name of a tag in front of the characters that are left, as bytes, and how many characters it
takes. -/
def tagBytes (c : Cursor) : Nat → List Char → Except DocumentError (List UInt8 × Nat)
  | skip + 1, _ :: cs => tagBytes c skip cs
  | 0, '%' :: cs =>
    match escapedByte? cs with
    | some b => (tagBytes c 2 cs).map fun (bs, n) => (b :: bs, n + 3)
    | none => do
      let digits := (cs.take 2).takeWhile fun ch => (Text.hexDigit? ch).isSome
      if digits.length = cs.length then c.atEnd
      throw .malformed
  | 0, ch :: cs =>
    if isTagChar ch then (tagBytes c 0 cs).map fun (bs, n) => (ch.toNat.toUInt8 :: bs, n + 1)
    else .ok ([], 0)
  | _, [] => c.atEnd.map fun _ => ([], 0)

/-- The name of a tag at a place, which is not empty. -/
def tagName (c : Cursor) : Except DocumentError (String × Cursor) := do
  let (bytes, n) ← tagBytes c 0 c.rest
  if n = 0 then throw .malformed
  match Text.decode bytes with
  | .ok cs => return (String.ofList cs, c.skip n)
  | .error _ => throw .malformed

/-- The handle at a place: a name between two exclamation marks, or one mark and a space. -/
def tagHandle (c : Cursor) : Except DocumentError (String × Cursor) := do
  if (← c.peek) ≠ some '!' then throw .malformed
  if (← c.second) = some ' ' then return ("!", c.next)
  let name ← c.next.run isNameChar
  let c := c.next.skip name.length
  if (← c.peek) = some '!' then
    return (String.ofList ('!' :: name ++ ['!']), ← c.advance 1)
  else throw .malformed

/-- Is there another exclamation mark in the word at a place? -/
def hasHandle (c : Cursor) : Except DocumentError Bool := do
  let others ← c.next.run fun ch => ch != '!' && !spaceOrEnd (some ch)
  return (c.next.skip others.length).rest.head? == some '!'

/-- The tag at a place. -/
def readTag (c : Cursor) : Except DocumentError (Token × Cursor) := do
  let second ← c.second
  let (t, c) ←
    if second = some '<' then do
      let (suffix, c) ← tagName (← c.advance 2)
      if (← c.peek) ≠ some '>' then throw .malformed
      pure (Token.tag none suffix, ← c.advance 1)
    else if partsWords second then pure (Token.tag none "!", c.next)
    else do
      let (handle, c) ← if ← hasHandle c then tagHandle c else pure ("!", c.next)
      let (suffix, c) ← tagName c
      pure (Token.tag (some handle) suffix, c)
  if spaceOrEnd (← c.peek) then return (t, c) else throw .malformed

/-- The name behind the mark of an anchor or alias. -/
def readName (c : Cursor) : Except DocumentError (String × Cursor) := do
  let name ← c.next.run isNameChar
  let c := c.next.skip name.length
  let next ← c.peek
  if name.isEmpty || !(partsWords next || next.any ("?:,]\x7d%@`".toList.contains ·)) then
    throw .malformed
  return (String.ofList name, c)

/-- The digits at a place, of which there is one at least, and not too many. -/
def readDigits (c : Cursor) : Except DocumentError (Nat × Cursor) := do
  let ds ← c.run Char.isDigit
  if ds.isEmpty then throw .malformed
  if Statement.maxCountDigits < ds.length then throw (.tooManyDigits ds.length)
  return (Statement.natOfDigits ds, c.skip ds.length)

/-- The two numbers of a version, of which the first one matters. -/
def readVersion (c : Cursor) : Except DocumentError (Token × Cursor) := do
  let (major, c) ← readDigits (← c.skipWhile (· == ' '))
  if (← c.peek) ≠ some '.' then throw .malformed
  let (_, c) ← readDigits (← c.advance 1)
  if spaceOrEnd (← c.peek) then return (.version major, c) else throw .malformed

/-- A handle for tags and what it stands for. -/
def readHandle (c : Cursor) : Except DocumentError (Token × Cursor) := do
  let (name, c) ← tagHandle (← c.skipWhile (· == ' '))
  if (← c.peek) ≠ some ' ' then throw .malformed
  let (expansion, c) ← tagName (← c.skipWhile (· == ' '))
  if spaceOrEnd (← c.peek) then return (.handle name expansion, c) else throw .malformed

/-- The directive at a place, with its line. -/
def readDirective (c : Cursor) : Except DocumentError (Token × Cursor) := do
  let name ← c.next.run isNameChar
  let c := c.next.skip name.length
  if name.isEmpty || !spaceOrEnd (← c.peek) then throw .malformed
  let (t, c) ←
    match String.ofList name with
    | "YAML" => readVersion c
    | "TAG" => readHandle c
    | _ => do pure (Token.otherDirective, ← c.skipLine)
  return (t, ← restOfLine c)

/-! ## One token -/

/-- Ends all blocks, as a directive, a marker between documents and the end of the text do. -/
def endBlocks (s : Lexer) : Except DocumentError Lexer := do
  let s ← (s.unwind (-1)).giveUp
  return { s with keyAllowed := false }

/-- Adds a token that may be a key or begin one. -/
def keyLike (s : Lexer) (read : Cursor → Except DocumentError (Token × Cursor)) :
    Except DocumentError Lexer := do
  let s ← s.remember
  let (t, c) ← read s.cursor
  return { s with keyAllowed := false, cursor := c }.emit t

/-- Opens brackets. -/
def openFlow (s : Lexer) (t : Token) : Except DocumentError Lexer := do
  let s ← s.remember
  { s with flow := s.flow + 1, keyAllowed := true }.take 1 t

/-- Closes brackets. -/
def closeFlow (s : Lexer) (t : Token) : Except DocumentError Lexer := do
  let s ← s.giveUp
  if s.flow = 0 then throw .malformed
  { s with flow := s.flow - 1, keyAllowed := false }.take 1 t

/-- The colon behind a key. If the key had no mark of its own it gets one now. -/
def colon (s : Lexer) : Except DocumentError Lexer :=
  match s.place? with
  | some p =>
    let s := s.forget.emitAt p.number .key
    let (opened, s) := if s.flow = 0 then s.deepen p.column else (false, s)
    let s := if opened then s.emitAt p.number .blockMapping else s
    { s with keyAllowed := false }.take 1 .value
  | none => do
    let s ← s.openBlock .blockMapping
    let s ← { s with keyAllowed := s.flow = 0 }.giveUp
    s.take 1 .value

/-- Adds a token that opens or goes on with a block, and may have a key behind it. -/
def blockMark (s : Lexer) (opening mark : Token) (keyAllowed : Bool) :
    Except DocumentError Lexer := do
  let s ← s.openBlock opening
  let s ← { s with keyAllowed }.giveUp
  s.take 1 mark

/-- A plain scalar. -/
def plainToken (s : Lexer) : Except DocumentError Lexer := do
  let s ← s.remember
  let ((text, c), broken) ← plain s.size (s.flow ≠ 0) (s.indent + 1) s.cursor
  return { s with keyAllowed := broken, cursor := c }.emit (.scalar (text.map .char) true)

/-- A scalar between quotes. -/
def quotedToken (s : Lexer) (double : Bool) : Except DocumentError Lexer :=
  s.keyLike fun c => (quoted s.size double c).map fun (text, c) => (.scalar text false, c)

/-- A block of lines. -/
def blockToken (s : Lexer) (fold : Bool) : Except DocumentError Lexer := do
  let s ← { s with keyAllowed := true }.giveUp
  let (text, c) ← block s.size fold s.indent s.cursor
  return { s with cursor := c }.emit (.scalar (text.map .char) false)

/-- Can a plain scalar begin with the character, whatever follows it? -/
def startsPlain (ch : Char) : Bool :=
  !(partsWords (some ch) || "-?:,[]\x7b\x7d#&*!|>'\"%@`".toList.contains ch)

/-- Reads the token at the place that begins with a mark for part of a structure if no blank follows
it, and else with a plain scalar. -/
def markOrPlain (s : Lexer) (ch : Char) : Except DocumentError Lexer := do
  let inFlow : Bool := s.flow ≠ 0
  if ch = '?' ∧ inFlow then s.blockMark .blockMapping .key false
  else if ch = ':' ∧ inFlow then s.colon
  else if partsWords (← s.cursor.second) then
    if ch = '-' then s.blockMark .blockSequence .blockEntry true
    else if ch = '?' then s.blockMark .blockMapping .key true
    else s.colon
  else s.plainToken

/-- Is the place at a marker between documents? -/
def atMarker (s : Lexer) (ch : Char) : Except DocumentError Bool :=
  if s.cursor.column = 0 ∧ (ch = '-' ∨ ch = '.') then s.cursor.startsMarker s.cursor.rest
  else .ok false

/-- Reads the token at the place, where the text goes on with a character. -/
def token (s : Lexer) (ch : Char) : Except DocumentError Lexer := do
  let inFlow : Bool := s.flow ≠ 0
  if ch = '%' ∧ s.cursor.column = 0 then
    let s ← s.endBlocks
    let (t, c) ← readDirective s.cursor
    return { s with cursor := c }.emit t
  else if ← s.atMarker ch then
    let s ← s.endBlocks
    s.take 3 (if ch = '-' then .documentStart else .documentEnd)
  else
    match ch with
    | '[' => s.openFlow .flowSequence
    | '\x7b' => s.openFlow .flowMapping
    | ']' => s.closeFlow .flowSequenceEnd
    | '\x7d' => s.closeFlow .flowMappingEnd
    | ',' => do
      let s ← { s with keyAllowed := true }.giveUp
      s.take 1 .flowEntry
    | '-' | '?' | ':' => s.markOrPlain ch
    | '*' => s.keyLike fun c => (readName c).map fun (name, c) => (.reference name, c)
    | '&' => s.keyLike fun c => (readName c).map fun (name, c) => (.anchor name, c)
    | '!' => s.keyLike readTag
    | '\'' => s.quotedToken false
    | '"' => s.quotedToken true
    | _ =>
      if (ch = '|' ∨ ch = '>') ∧ !inFlow then s.blockToken (ch = '>')
      else if startsPlain ch then s.plainToken
      else do
        let _ ← s.cursor.second
        throw .malformed

/-! ## All tokens -/

/-- Passes over what parts tokens and closes the blocks that end there. -/
def advance (s : Lexer) : Except DocumentError Lexer := do
  let (broken, c) ← s.cursor.gap
  let s ← { s with cursor := c, keyAllowed := s.keyAllowed || (broken && s.flow == 0) }.giveUpStale
  return s.unwind c.column

/-- Reads on: at the end of the text the last tokens, and else those up to the one that comes
next. -/
def step (s : Lexer) : Except DocumentError Lexer := do
  let s ← s.advance
  match s.cursor.rest with
  | [] => do
    let s ← s.endBlocks
    return { s.emit .streamEnd with ended := true }
  | ch :: _ => s.token ch

/-- How many tokens there are that no other can come before. -/
def settled (s : Lexer) : Nat :=
  s.places.foldl (fun n p => min n p.2.number) s.count

/-- Reads tokens until no more can be had: those handed over, and the error behind them, if there is
one. Where a token is waiting to be handed over, places that are too far back are given up first. -/
def run : Nat → Lexer → Nat → List Token × Option DocumentError
  | 0, s, handed => (s.tokens.reverse.take handed, some .malformed)
  | fuel + 1, s, handed =>
    if s.ended then (s.tokens.reverse, none)
    else
      match if handed < s.count then s.giveUpStale else .ok s with
      | .error e => (s.tokens.reverse.take handed, some e)
      | .ok s =>
        match s.step with
        | .error e => (s.tokens.reverse.take s.settled, some e)
        | .ok next => run fuel next s.settled

end Lexer

/-- The tokens of a text, up to an error if there is one. Each step of reading takes a character at
least, save the last one. -/
def Token.scan (c : Cursor) : List Token × Option DocumentError :=
  let size := c.rest.length
  Lexer.run (size + 2) { size, cursor := c } 0

end Wireform.Document
