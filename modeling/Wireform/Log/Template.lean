import Wireform.Binary64.Scientific
import Wireform.Value

/-!
Message templates: text in which a percent sign, some options and a letter stand for the next
argument, or for the entry of a map whose key comes between parentheses. Two percent signs stand for
one.
-/

namespace Wireform.Log

open Text (CodePoint)

/-- Why a template cannot be filled in. -/
inductive TemplateError where
  | needsMapping
  | openKey
  | missingKey (name : List CodePoint)
  | tooFew
  | tooMany
  | starNotInt
  | starTooLarge (what : String)
  | tooBig (what : String)
  | precisionTooLarge
  /-- More text than there is room for. -/
  | noRoom
  | incomplete
  | unsupported (code index : Nat)
  | notReal (letter : Char) (kind : String)
  | notInteger (letter : Char) (kind : String)
  | notNumber (kind : String)
  | tooLarge
  | undefinedInt
  | infiniteInt
  | charCode
  | notChar
  deriving DecidableEq

/-- The error in words. -/
def TemplateError.message : TemplateError → String
  | .needsMapping => "format requires a mapping"
  | .openKey => "incomplete format key"
  | .missingKey name => Text.quotedCodes name
  | .tooFew => "not enough arguments for format string"
  | .tooMany => "not all arguments converted during string formatting"
  | .starNotInt => "* wants int"
  | .starTooLarge what => "Python int too large to convert to C " ++ what
  | .tooBig what => what ++ " too big"
  | .precisionTooLarge => "precision too large"
  | .noRoom => ""
  | .incomplete => "incomplete format"
  | .unsupported code index =>
    "unsupported format character '" ++
      String.ofList [if 31 ≤ code ∧ code < 127 then Char.ofNat code else '?'] ++ "' (0x" ++
      String.ofList (Nat.toDigits 16 code) ++ ") at index " ++ toString index
  | .notReal letter kind =>
    "%" ++ String.ofList [letter] ++ " format: a real number is required, not " ++ kind
  | .notInteger letter kind =>
    "%" ++ String.ofList [letter] ++ " format: an integer is required, not " ++ kind
  | .notNumber kind => "must be real number, not " ++ kind
  | .tooLarge => NumberError.tooLarge.message
  | .undefinedInt => "cannot convert float NaN to integer"
  | .infiniteInt => "cannot convert float infinity to integer"
  | .charCode => "%c arg not in range(0x110000)"
  | .notChar => "%c requires int or char"

/-- The options of a place to be filled in. -/
structure Options where
  left : Bool := false
  plus : Bool := false
  blank : Bool := false
  alternate : Bool := false
  zero : Bool := false
  width : Nat := 0
  precision : Option Nat := none

/-- The arguments left: a row of them, or a single value that can be used once. `map` holds the
entries that keys refer to. -/
structure Arguments where
  row : List Value
  map : Option (List (Value × Value)) := none

/-- The place of reading: the text left and how far it is from the start of the template. -/
structure Place where
  rest : List CodePoint
  index : Nat

namespace Place

/-- The place behind the next code point. -/
def next (p : Place) : Place :=
  ⟨p.rest.tail, p.index + 1⟩

/-- The place behind some code points. -/
def skip (p : Place) (n : Nat) : Place :=
  ⟨p.rest.drop n, p.index + n⟩

end Place

/-- The next argument. -/
def take (a : Arguments) : Except TemplateError (Value × Arguments) :=
  match a.row with
  | v :: vs => .ok (v, { a with row := vs })
  | [] => .error .tooFew

/-- The length of a key up to the parenthesis that closes it; `depth` counts those open inside. -/
def keyLength? (depth : Nat) : List CodePoint → Option Nat
  | [] => none
  | .char ')' :: cs => match depth with
    | 0 => some 0
    | d + 1 => (keyLength? d cs).map (· + 1)
  | .char '(' :: cs => (keyLength? (depth + 1) cs).map (· + 1)
  | _ :: cs => (keyLength? depth cs).map (· + 1)

/-- Reads a key between parentheses, if there is one: its entry is the only argument then. -/
def readKey (a : Arguments) (p : Place) : Except TemplateError (Arguments × Place) :=
  match p.rest with
  | .char '(' :: cs =>
    match a.map, keyLength? 0 cs with
    | none, _ => .error .needsMapping
    | some _, none => .error .openKey
    | some entries, some n =>
      let name := cs.take n
      match entries.find? fun e => e.1.sameKey (.ofCodePoints name) with
      | some e => .ok ({ a with row := [e.2] }, p.skip (n + 2))
      | none => .error (.missingKey name)
  | _ => .ok (a, p)

/-- Reads the flags. -/
def readFlags (o : Options) (index : Nat) : List CodePoint → Options × Place
  | [] => (o, ⟨[], index⟩)
  | c :: cs =>
    if c = .char '-' then readFlags { o with left := true } (index + 1) cs
    else if c = .char '+' then readFlags { o with plus := true } (index + 1) cs
    else if c = .char ' ' then readFlags { o with blank := true } (index + 1) cs
    else if c = .char '#' then readFlags { o with alternate := true } (index + 1) cs
    else if c = .char '0' then readFlags { o with zero := true } (index + 1) cs
    else (o, ⟨c :: cs, index⟩)

/-- The greatest width. -/
def maxWidth : Nat := 9223372036854775807

/-- The greatest precision. -/
def maxPrecision : Nat := 2147483647

/-- The whole number of an argument that gives a width or precision; below zero it may go one
further than above. -/
def starInt (what : String) (most : Nat) (a : Arguments) :
    Except TemplateError (Int × Arguments) := do
  let (v, a) ← take a
  match v.toInt? with
  | some n => if (most : Int) < n ∨ n < -most - 1 then throw (.starTooLarge what) else return (n, a)
  | none => throw .starNotInt

/-- The number that the digits at a place stand for, which has a greatest value. -/
def readDigits (what : String) (most : Nat) (p : Place) : Except TemplateError (Nat × Place) :=
  let ds := p.rest.takeWhile fun c => c.char?.any Char.isDigit
  let n := ds.foldl (fun n c => 10 * n + (c.toNat - '0'.toNat)) 0
  if most < n then .error (.tooBig what) else .ok (n, p.skip ds.length)

/-- Reads the width. A negative one from an argument also means the left side; the lowest of all,
which has no opposite, is no width. -/
def readWidth (o : Options) (a : Arguments) (p : Place) :
    Except TemplateError (Options × Arguments × Place) := do
  if p.rest.head? = some (.char '*') then
    let (n, a) ← starInt "ssize_t" maxWidth a
    let width := if n.natAbs ≤ maxWidth then n.natAbs else 0
    return ({ o with width, left := o.left || n < 0 }, a, p.next)
  else
    let (n, p) ← readDigits "width" maxWidth p
    return ({ o with width := n }, a, p)

/-- Reads the precision behind a point. -/
def readPrecision (o : Options) (a : Arguments) (p : Place) :
    Except TemplateError (Options × Arguments × Place) := do
  if p.rest.head? ≠ some (.char '.') then return (o, a, p)
  let p := p.next
  if p.rest.head? = some (.char '*') then
    let (n, a) ← starInt "int" maxPrecision a
    return ({ o with precision := some n.toNat }, a, p.next)
  else
    let (n, p) ← readDigits "precision" maxPrecision p
    return ({ o with precision := some n }, a, p)

/-! ## Filling in -/

/-- The most characters that there is room for in one place. -/
def maxLength : Nat := 268435456

/-- Is there room for so many characters? -/
def checkRoom (length : Nat) : Except TemplateError Unit :=
  if maxLength < length then .error .noRoom else .ok ()

/-- A text brought to the width. -/
def padText (o : Options) (body : List CodePoint) : Except TemplateError (List CodePoint) := do
  checkRoom o.width
  let gap := List.replicate (o.width - body.length) (CodePoint.char ' ')
  return if o.left then body ++ gap else gap ++ body

/-- A number brought to the width; zeros go between its sign and mark and its digits. -/
def padDigits (o : Options) (front body : List Char) :
    Except TemplateError (List CodePoint) := do
  checkRoom o.width
  if !o.left && o.zero then
    let gap := o.width - (front.length + body.length)
    return (front ++ List.replicate gap '0' ++ body).map .char
  else padText o ((front ++ body).map .char)

/-- The sign of a number that is not negative. -/
def plusSign (o : Options) : List Char :=
  if o.plus then ['+'] else if o.blank then [' '] else []

/-- A number brought to the width, its sign being part of the text. -/
def padNumber (o : Options) (mark text : List Char) : Except TemplateError (List CodePoint) :=
  match text with
  | '-' :: body => padDigits o ('-' :: mark) body
  | body => padDigits o (plusSign o ++ mark) body

/-- The whole number that an argument stands for, cut off towards zero. -/
def wholeOf (letter : Char) (v : Value) : Except TemplateError Int :=
  match v with
  | .number .nan => .error .undefinedInt
  | .number (.infinite _) => .error .infiniteInt
  | .number (.finite negative units _) => .ok (Binary64.signed negative (units / Binary64.one))
  | _ =>
    match v.toInt? with
    | some n => .ok n
    | none => .error (.notReal letter v.kind)

/-- The base of a letter for whole numbers. -/
def baseOf (letter : Char) : Nat :=
  if letter = 'o' then 8 else if letter = 'x' ∨ letter = 'X' then 16 else 10

/-- The mark of a base in front of a number. -/
def markOf (letter : Char) : List Char :=
  if baseOf letter = 10 then [] else ['0', letter]

/-- The greatest precision of a whole number: a sign and the mark of a base have to fit as well. -/
def maxIntPrecision : Nat := maxPrecision - 3

/-- A whole number; the precision is the least count of digits. -/
def fillInt (o : Options) (letter : Char) (v : Value) :
    Except TemplateError (List CodePoint) := do
  let n ←
    if baseOf letter = 10 then wholeOf letter v
    else
      match v.toInt? with
      | some n => pure n
      | none => throw (.notInteger letter v.kind)
  let least := o.precision.getD 0
  if maxIntPrecision < least then throw .precisionTooLarge
  checkRoom least
  let ds := Nat.toDigits (baseOf letter) n.natAbs
  let ds := if letter = 'X' then ds.map Char.toUpper else ds
  let ds := List.replicate (least - ds.length) '0' ++ ds
  padNumber o (if o.alternate then markOf letter else [])
    (Binary64.signMark (n < 0) ++ ds)

/-- The number that an argument stands for; texts are none here. -/
def realOf (v : Value) : Except TemplateError Binary64 :=
  match v with
  | .number x => .ok x
  | _ =>
    match v.toInt? with
    | some n =>
      match Binary64.ofInt? n with
      | some x => .ok x
      | none => .error .tooLarge
    | none => .error (.notNumber v.kind)

/-- A number with a point. With an exponent there is one digit more than places, which the greatest
precision leaves no count for: it stands for none. -/
def fillReal (o : Options) (letter : Char) (v : Value) :
    Except TemplateError (List CodePoint) := do
  let x ← realOf v
  let low := letter.toLower
  let places :=
    if low = 'e' ∧ o.precision = some maxPrecision then 0 else o.precision.getD 6
  if x.isFinite && (low ≠ 'g' || o.alternate) then checkRoom places
  let rule :=
    if low = 'e' then Binary64.scientificDigits places o.alternate
    else if low = 'f' then Binary64.fixedDigits places o.alternate
    else Binary64.generalDigits places o.alternate
  let text := x.writtenBy rule
  padNumber o [] (if letter = low then text else text.map Char.toUpper)

/-- A text; the precision is the greatest length. -/
def fillText (o : Options) (s : List CodePoint) : Except TemplateError (List CodePoint) :=
  padText o (match o.precision with
    | some n => s.take n
    | none => s)

/-- The code point with a number, which is not below zero. -/
def codePointAt? : Int → Option CodePoint
  | .ofNat n => CodePoint.ofNat? n
  | .negSucc _ => none

/-- A single code point, given as such or by number. -/
def fillChar (o : Options) (v : Value) : Except TemplateError (List CodePoint) :=
  match v with
  | .text _ | .ragged _ =>
    match v.plain with
    | [p] => padText o [p]
    | _ => .error .notChar
  | _ =>
    match v.toInt? with
    | some n =>
      match codePointAt? n with
      | some p => padText o [p]
      | none => .error .charCode
    | none => .error .notChar

/-- A text in which all but ASCII is written as escapes. -/
def asciiOnly (s : String) : String :=
  String.ofList (s.toList.flatMap fun c =>
    if c.toNat < 0x80 then [c] else Text.codeEscape c.toNat)

/-- What an argument comes to under a letter, if it is one that stands for something. -/
def fillBy? (o : Options) (letter : Char) (v : Value) :
    Option (Except TemplateError (List CodePoint)) :=
  if letter = 's' then some (fillText o v.plain)
  else if letter = 'r' then some (fillText o (Text.codePoints v.shown))
  else if letter = 'a' then some (fillText o (Text.codePoints (asciiOnly v.shown)))
  else if "diuoxX".toList.contains letter then some (fillInt o letter v)
  else if "eEfFgG".toList.contains letter then some (fillReal o letter v)
  else if letter = 'c' then some (fillChar o v)
  else none

/-- What an argument comes to under a code point, which stands at an index. -/
def fill (o : Options) (letter : CodePoint) (index : Nat) (v : Value) :
    Except TemplateError (List CodePoint) :=
  (letter.char?.bind (fillBy? o · v)).getD (.error (.unsupported letter.toNat index))

/-- Fills in the place behind a percent sign. -/
def fillPlace (a : Arguments) (p : Place) :
    Except TemplateError (List CodePoint × Arguments × Place) := do
  let (a, p) ← readKey a p
  let (o, p) := readFlags {} p.index p.rest
  let (o, a, p) ← readWidth o a p
  let (o, a, p) ← readPrecision o a p
  let p := if p.rest.head?.any ((Text.codePoints "hlL").contains ·) then p.next else p
  match p.rest with
  | [] => throw .incomplete
  | letter :: _ => do
    let (v, a) ← take a
    return (← fill o letter p.index v, a, p.next)

/-- Fills in a template. Each step takes a code point at least. -/
def expand : Nat → Arguments → Place → Except TemplateError (List CodePoint)
  | 0, _, _ => .error .incomplete
  | fuel + 1, a, p =>
    match p.rest with
    | [] => if a.map.isNone && !a.row.isEmpty then .error .tooMany else .ok []
    | .char '%' :: .char '%' :: _ => (expand fuel a (p.skip 2)).map (.char '%' :: ·)
    | .char '%' :: _ => do
      let (text, a, p) ← fillPlace a p.next
      return text ++ (← expand fuel a p)
    | c :: _ => (expand fuel a p.next).map (c :: ·)

/-- The arguments that a row stands for: a map with entries, if it is alone, is what keys refer
to. -/
def arguments : List Value → Arguments
  | [.map entries] =>
    { row := [.map entries], map := if entries.isEmpty then none else some entries }
  | row => { row }

/-- A template with its arguments filled in. Without arguments it is taken as it is. -/
def fillTemplate (template : List CodePoint) (args : List Value) :
    Except TemplateError (List CodePoint) :=
  if args.isEmpty then .ok template
  else expand (template.length + 1) (arguments args) ⟨template, 0⟩

end Wireform.Log
