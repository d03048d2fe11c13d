import Wireform.Document.Cursor

/-!
The texts of scalars: plain ones, those between quotes, and the blocks of lines behind a `|` or `>`.
In all but the last, a line end counts as a space and empty lines count as line ends.
-/

namespace Wireform.Document

open Text (CodePoint)

/-- A piece of text read at a place, and the place behind it. -/
abbrev Piece := List Char × Cursor

/-- What the line ends between two words count for: the first one, then those of empty lines. -/
def folded (first : Char) (others : List Char) : List Char :=
  if breakText first ≠ '\n' then breakText first :: others
  else if others.isEmpty then [' ']
  else others

/-! ## Plain scalars -/

/-- Does a colon that a character follows, or the end of the text, end a plain scalar? -/
def colonEnds (flow : Bool) (next : Option Char) : Bool :=
  partsWords next || (flow && next.any (",[]\x7b\x7d".toList.contains ·))

/-- The word of a plain scalar in front of the characters that are left. -/
def plainWord (flow : Bool) (c : Cursor) : List Char → Except DocumentError (List Char)
  | [] => c.atEnd.map fun _ => []
  | ch :: cs => do
    if partsWords (some ch) || (flow && ",?[]\x7b\x7d".toList.contains ch) then return []
    if ch = ':' then
      if colonEnds flow (← c.first cs) then return []
    return ch :: (← plainWord flow c cs)

/-- Passes over the spaces and line ends behind the first line end of a gap, keeping the line ends
newest first; `none` if a marker between documents comes up. -/
def plainBreaks (c : Cursor) (breaks : List Char) :
    List Char → Except DocumentError (Option (List Char) × Cursor)
  | [] => c.atEnd.map fun _ => (some breaks, { c with rest := [] })
  | ch :: rest => do
    if ch = ' ' then plainBreaks (c.past ch rest) breaks rest
    else if isBreak ch then
      if ← c.startsMarker rest then return (none, c.past ch rest)
      else plainBreaks (c.past ch rest) (breakText ch :: breaks) rest
    else return (some breaks, { c with rest := ch :: rest })

/-- What follows a word of a plain scalar: the text of the gap, `none` if the scalar must end here,
the place behind the gap, and whether a line has ended. -/
def plainGap (c : Cursor) : Except DocumentError (Option (List Char) × Cursor × Bool) := do
  let spaces ← c.run (· == ' ')
  let c := c.skip spaces.length
  match c.rest with
  | ch :: rest =>
    if isBreak ch then
      if ← c.startsMarker rest then return (none, c.past ch rest, true)
      else
        let (breaks, c) ← plainBreaks (c.past ch rest) [] rest
        return (breaks.map fun b => folded ch b.reverse, c, true)
    else return (if spaces.isEmpty then none else some spaces, c, false)
  | [] => return (if spaces.isEmpty then none else some spaces, c, false)

/-- Reads words of a plain scalar, one at a time. `gap` is the text of the gap before, and `broken`
says whether a line ended in it. A scalar goes on only in columns from `indent` on, unless it stands
in brackets. -/
def plainFrom (flow : Bool) (indent : Int) :
    Nat → List Char → Bool → Cursor → Except DocumentError (Piece × Bool)
  | 0, _, broken, c => .ok (([], c), broken)
  | fuel + 1, gap, broken, c => do
    let word ← if c.rest.head? = some '#' then pure [] else plainWord flow c c.rest
    if word.isEmpty then return (([], c), broken)
    let text := gap ++ word
    let (gap, c, broken) ← plainGap (c.skip word.length)
    match gap with
    | none => return ((text, c), broken)
    | some gap =>
      if c.rest.head? = some '#' || (!flow && (c.column : Int) < indent) then
        return ((text, c), broken)
      else
        let ((more, c), broken) ← plainFrom flow indent fuel gap broken c
        return ((text ++ more, c), broken)

/-- The plain scalar at a place of a text no longer than `size`, and whether a line has ended behind
its last word. -/
def plain (size : Nat) (flow : Bool) (indent : Int) (c : Cursor) :
    Except DocumentError (Piece × Bool) :=
  plainFrom flow indent (size + 1) [] false c

/-! ## Scalars between quotes -/

/-- Passes over the blanks and line ends behind the first line end of a gap between quotes, keeping
the line ends newest first. `start` says that a line starts here, where no marker between documents
may stand. -/
def quotedBreaks (c : Cursor) (start : Bool) (breaks : List Char) :
    List Char → Except DocumentError Piece
  | [] => c.atEnd.map fun _ => (breaks, { c with rest := [] })
  | ch :: rest => do
    if start then
      if ← c.startsMarker (ch :: rest) then throw .malformed
    if ch = ' ' ∨ ch = '\t' then quotedBreaks (c.past ch rest) false breaks rest
    else if isBreak ch then quotedBreaks (c.past ch rest) true (breakText ch :: breaks) rest
    else return (breaks, { c with rest := ch :: rest })

/-- The text of a gap between quotes. -/
def quotedGap (c : Cursor) : Except DocumentError Piece := do
  let blanks ← c.run fun ch => ch == ' ' || ch == '\t'
  let c := c.skip blanks.length
  match c.rest with
  | [] => throw .malformed
  | ch :: rest =>
    if isBreak ch then
      let (breaks, c) ← quotedBreaks (c.past ch rest) true [] rest
      return (folded ch breaks.reverse, c)
    else return (blanks, c)

/-- The escapes of one letter. -/
def letterEscape? : Char → Option Char
  | '0' => some '\x00'
  | 'a' => some '\x07'
  | 'b' => some '\x08'
  | 't' | '\t' => some '\t'
  | 'n' => some '\n'
  | 'v' => some '\x0b'
  | 'f' => some '\x0c'
  | 'r' => some '\r'
  | 'e' => some '\x1b'
  | 'N' => some '\x85'
  | '_' => some '\xa0'
  | 'L' => some '\u2028'
  | 'P' => some '\u2029'
  | ' ' => some ' '
  | '"' => some '"'
  | '\\' => some '\\'
  | '/' => some '/'
  | _ => none

/-- How many digits follow the letter of an escape by number. -/
def escapeWidth? : Char → Option Nat
  | 'x' => some 2
  | 'u' => some 4
  | 'U' => some 8
  | _ => none

/-- The code point with a number. -/
def codePointOf (n : Nat) : Except DocumentError CodePoint :=
  match CodePoint.ofNat? n with
  | some p => .ok p
  | none => .error (if 0x80000000 ≤ n then .charNumber else .charCode)

/-- The text of the escape by number whose digits are at the place. -/
def numberEscape (c : Cursor) (width : Nat) : Except DocumentError (List CodePoint × Cursor) := do
  let digits := (c.rest.take width).takeWhile fun ch => (Text.hexDigit? ch).isSome
  match Text.hexValue? digits with
  | some n =>
    if digits.length < width then
      let _ ← (c.skip digits.length).peek
      throw .malformed
    let p ← codePointOf n
    return ([p], ← c.advance width)
  | none => throw .malformed

/-- The text of the escape whose letter is at the place. -/
def escape (c : Cursor) : Except DocumentError (List CodePoint × Cursor) := do
  match ← c.peek with
  | none => throw .malformed
  | some ch =>
    match letterEscape? ch, escapeWidth? ch with
    | some e, _ => return ([.char e], ← c.advance 1)
    | none, some width => numberEscape (← c.advance 1) width
    | none, none =>
      if isBreak ch then
        let (breaks, c) ← quotedBreaks c.next true [] c.next.rest
        return (breaks.reverse.map .char, c)
      else throw .malformed

/-- Reads on to the closing quote. -/
def quotedFrom (double : Bool) :
    Nat → Cursor → Except DocumentError (List CodePoint × Cursor)
  | 0, _ => .error .malformed
  | fuel + 1, c => do
    match ← c.peek with
    | none => throw .malformed
    | some ch =>
      let paired := !double && ch == '\'' && (← c.second) == some '\''
      if ch = (if double then '"' else '\'') ∧ !paired then return ([], ← c.advance 1)
      let (text, c) ←
        if paired then pure ([.char ch], ← c.advance 2)
        else if partsWords (some ch) then
          (quotedGap c).map fun (text, c) => (text.map .char, c)
        else if double && ch = '\\' then escape (← c.advance 1)
        else pure ([.char ch], c.next)
      let (more, c) ← quotedFrom double fuel c
      return (text ++ more, c)

/-- The scalar between quotes that opens at a place of a text no longer than `size`. -/
def quoted (size : Nat) (double : Bool) (c : Cursor) :
    Except DocumentError (List CodePoint × Cursor) :=
  quotedFrom double (size + 1) c.next

/-! ## Blocks of lines -/

/-- What becomes of the line ends at the end of a block. -/
inductive Chomp where
  | strip
  | clip
  | keep
  deriving DecidableEq

/-- The sign for how a block ends. -/
def chomp? : Option Char → Option Chomp
  | some '+' => some .keep
  | some '-' => some .strip
  | _ => none

/-- The sign for how far a block is indented; zero is none. -/
def blockDigit (c : Cursor) : Except DocumentError (Option Nat × Cursor) := do
  match ← c.peek with
  | some ch =>
    if ch = '0' then throw .malformed
    else if '1' ≤ ch ∧ ch ≤ '9' then return (some (ch.toNat - '0'.toNat), ← c.advance 1)
    else return (none, c)
  | none => return (none, c)

/-- Passes over spaces, a remark and the line end. -/
def restOfLine (c : Cursor) : Except DocumentError Cursor := do
  let c ← c.skipWhile (· == ' ')
  let c ← if c.rest.head? = some '#' then c.skipLine else pure c
  if endsLine c.rest.head? then c.advance 1 else throw .malformed

/-- The signs behind the opening of a block, in either order, and the rest of that line. -/
def blockHeader (c : Cursor) : Except DocumentError ((Chomp × Option Nat) × Cursor) := do
  let (chomp, digit, c) ←
    match chomp? (← c.peek) with
    | some chomp => do
      let (digit, c) ← blockDigit (← c.advance 1)
      pure (chomp, digit, c)
    | none => do
      let (digit, c) ← blockDigit c
      match digit, chomp? (← c.peek) with
      | some _, some chomp => pure (chomp, digit, ← c.advance 1)
      | _, _ => pure (Chomp.clip, digit, c)
  if spaceOrEnd (← c.peek) then return ((chomp, digit), ← restOfLine c)
  else throw .malformed

/-- Passes over the empty lines at the start of a block, and finds how far they or the first line
of text are indented at most. -/
def blockMargin (c : Cursor) (breaks : List Char) (most : Nat) :
    List Char → Except DocumentError ((List Char × Nat) × Cursor)
  | [] => c.atEnd.map fun _ => ((breaks, most), { c with rest := [] })
  | ch :: rest =>
    if isBreak ch then blockMargin (c.past ch rest) (breaks ++ [breakText ch]) most rest
    else if ch = ' ' then blockMargin (c.past ch rest) breaks (max most (c.column + 1)) rest
    else .ok ((breaks, most), { c with rest := ch :: rest })

/-- Passes over empty lines and the indentation of the line of text that follows. -/
def blockBreaks (indent : Nat) (c : Cursor) (breaks : List Char) :
    List Char → Except DocumentError Piece
  | [] => c.atEnd.map fun _ => (breaks, { c with rest := [] })
  | ch :: rest =>
    if ch = ' ' ∧ c.column < indent then blockBreaks indent (c.past ch rest) breaks rest
    else if isBreak ch then blockBreaks indent (c.past ch rest) (breaks ++ [breakText ch]) rest
    else .ok (breaks, { c with rest := ch :: rest })

/-- Does the line at the place start without a blank? -/
def startsFlush (c : Cursor) : Bool :=
  c.rest.head? ≠ some ' ' && c.rest.head? ≠ some '\t'

/-- Reads the lines of a block, which all are indented alike; `breaks` are the empty lines before
the next one and `last` is the line end before them. -/
def blockLines (fold : Bool) (chomp : Chomp) (indent : Nat) :
    Nat → List Char → List Char → Cursor → Except DocumentError Piece
  | 0, _, _, c => .ok ([], c)
  | fuel + 1, last, breaks, c => do
    if c.column = indent ∧ !c.rest.isEmpty then
      let line ← c.run fun ch => !isBreak ch
      let text := breaks ++ line
      let behind := c.skip line.length
      let last := behind.rest.head?.toList.map breakText
      let start ← behind.advance 1
      let (breaks, d) ← blockBreaks indent start [] start.rest
      let joint :=
        if d.column = indent ∧ !d.rest.isEmpty then
          if fold && last == ['\n'] && startsFlush c && startsFlush d then
            if breaks.isEmpty then [' '] else []
          else last
        else []
      let (more, c) ← blockLines fold chomp indent fuel last breaks d
      return (text ++ joint ++ more, c)
    else
      return ((if chomp = .strip then [] else last) ++ (if chomp = .keep then breaks else []), c)

/-- The block of lines that opens at a place inside a structure with the given indentation, in a
text no longer than `size`. -/
def block (size : Nat) (fold : Bool) (outer : Int) (c : Cursor) : Except DocumentError Piece := do
  let ((chomp, digit), c) ← blockHeader (← c.advance 1)
  let least := max (outer + 1).toNat 1
  let (indent, breaks, c) ←
    match digit with
    | some d => do
      let indent := least + d - 1
      let (breaks, c) ← blockBreaks indent c [] c.rest
      pure (indent, breaks, c)
    | none => do
      let ((breaks, most), c) ← blockMargin c [] 0 c.rest
      pure (max least most, breaks, c)
  blockLines fold chomp indent (size + 1) [] breaks c

end Wireform.Document
