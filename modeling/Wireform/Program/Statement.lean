import Wireform.Binary64.Reading
import Wireform.Program.Fault
import Wireform.Program.Instruction
import Wireform.Program.LengthUnit

/-!
Statements: the shapes by which a line of a program is recognised.

A shape is looked for anywhere on the line, in lower case and without the blanks around it. The
rules are tried in a fixed order; the first whose shape occurs decides, with the arguments of its
leftmost occurrence. So `feed 2 // then bend` is a feed, and a line with `bend 5` in it is a bend
whatever else stands there.
-/

namespace Wireform

namespace Statement

/-- The most digits that a repeat count may have. -/
def maxCountDigits : Nat := 4300

/-- A shape at one place of a line: given the character before the place and the text from it on,
the command found there, if any. A count with too many digits is found but refused, with how many
it has. -/
abbrev Shape := Option Char → List Char → Option (Except Nat Command)

/-- Letters, digits and the underscore make up words. -/
def isWordChar (c : Char) : Bool :=
  c.isAlphanum || c == '_'

/-- Does no word character come first? -/
def startsNoWord : List Char → Bool
  | c :: _ => !isWordChar c
  | [] => true

/-- The rest behind a word at the front. -/
def after? (word : String) (cs : List Char) : Option (List Char) :=
  if word.toList.isPrefixOf cs then some (cs.drop word.length) else none

/-- The argument behind a keyword and one or more blanks. -/
def argument? (keyword : String) (cs : List Char) : Option (List Char) :=
  match after? keyword cs with
  | some (c :: rest) =>
    if Text.isAsciiBlank c then some (rest.dropWhile Text.isAsciiBlank) else none
  | _ => none

/-- The digits at the front. -/
def digitsOf (cs : List Char) : List Char :=
  cs.takeWhile Char.isDigit

/-- The value of a row of ASCII digits. -/
def natOfDigits (ds : List Char) : Nat :=
  ds.foldl (fun n c => 10 * n + (c.toNat - '0'.toNat)) 0

/-- The places behind a point that has a digit after it. -/
def placesOf : List Char → List Char
  | '.' :: cs => digitsOf cs
  | _ => []

/-- The number at the front: an optional minus sign, digits, and a point only if digits follow. -/
def number? (cs : List Char) : Option Binary64 :=
  let (negative, body) := match cs with
    | '-' :: rest => (true, rest)
    | _ => (false, cs)
  let whole := digitsOf body
  if whole.isEmpty then none
  else
    let fraction := placesOf (body.drop whole.length)
    some (Binary64.ofDecimal negative (natOfDigits (whole ++ fraction)) (-(fraction.length : Int)))

/-- `bend` and an angle. -/
def bend : Shape := fun _ cs =>
  (argument? "bend" cs).bind number? |>.map (.ok ∘ .bend)

/-- `feed` and a length. -/
def feed : Shape := fun _ cs =>
  (argument? "feed" cs).bind number? |>.map (.ok ∘ .feed)

/-- `unit` and a word for a unit. -/
def unit : Shape := fun _ cs => do
  let arg ← argument? "unit" cs
  let u ← LengthUnit.vocabulary.findSome? fun (word, u) =>
    (after? word arg).bind fun rest => if startsNoWord rest then some u else none
  return .ok (.unit u.code)

/-- `repeat`, a count and a colon. -/
def «repeat» : Shape := fun _ cs => do
  let arg ← argument? "repeat" cs
  let ds := digitsOf arg
  match ds, arg.drop ds.length with
  | _ :: _, ':' :: _ =>
    some (if maxCountDigits < ds.length then .error ds.length else .ok (.repeat (natOfDigits ds)))
  | _, _ => none

/-- `end` as a word of its own. -/
def close : Shape := fun before cs =>
  match after? "end" cs with
  | some rest =>
    if startsNoWord before.toList && startsNoWord rest then some (.ok .close) else none
  | none => none

/-- Two slashes or an apostrophe. -/
def comment : Shape := fun _ cs =>
  match cs with
  | '/' :: '/' :: _ => some (.ok .comment)
  | '\'' :: _ => some (.ok .comment)
  | _ => none

/-- The rules in the order in which they are tried. -/
def rules : List Shape :=
  [bend, feed, unit, «repeat», close, comment]

/-- The leftmost occurrence of a shape in a text that has `before` in front of it. -/
def leftmostFrom (shape : Shape) (before : Option Char) :
    List Char → Option (Except Nat Command)
  | [] => shape before []
  | c :: cs => shape before (c :: cs) <|> leftmostFrom shape (some c) cs

/-- The leftmost occurrence of a shape on a line. -/
def leftmost (shape : Shape) (cs : List Char) : Option (Except Nat Command) :=
  leftmostFrom shape none cs

/-- The command on a line in lower case without blanks around it. -/
def recognise (cs : List Char) : Option (Except Nat Command) :=
  (rules.findSome? (leftmost · cs)) <|> if cs.isEmpty then some (.ok .comment) else none

end Statement

/-- Why a program text is refused. -/
inductive SourceError where
  | fault (e : LocatedFault)
  /-- A repeat count with more digits than are read. -/
  | countTooLong (digits : Nat)
  deriving DecidableEq

/-- What is said of a whole number with too many digits. -/
def tooManyDigitsMessage (digits : Nat) : String :=
  "Exceeds the limit (4300 digits) for integer string conversion: value has " ++ toString digits ++
    " digits; use sys.set_int_max_str_digits() to increase the limit"

/-- The refusal in words. -/
def SourceError.message : SourceError → String
  | .fault e => e.message
  | .countTooLong digits => tooManyDigitsMessage digits

/-- The instruction on one line of a program. -/
def Instruction.ofLine (raw : List Char) (line : Int) : Except SourceError Instruction :=
  let stripped := Text.strip raw
  match Statement.recognise (Text.lower stripped) with
  | some (.ok command) => .ok { command, line := some line }
  | some (.error digits) => .error (.countTooLong digits)
  | none => .error (.fault ⟨line, .unrecognised (String.ofList stripped)⟩)

namespace Program

/-- The lines of a text. A text with `n` line ends has `n + 1` lines. -/
def linesOf (s : List Char) : List (List Char) :=
  s.foldr
    (fun c ls =>
      if c = '\n' then [] :: ls
      else match ls with
        | l :: rest => (c :: l) :: rest
        | [] => [[c]])
    [[]]

/-- The instructions on lines numbered from `line` on, or what is wrong with the first bad one. -/
def ofLines (line : Nat) : List (List Char) → Except SourceError Program
  | [] => .ok []
  | l :: ls =>
    match Instruction.ofLine l line with
    | .error e => .error e
    | .ok i =>
      match ofLines (line + 1) ls with
      | .error e => .error e
      | .ok is => .ok (i :: is)

/-- The program that a text holds, one instruction for each line. -/
def ofSource (text : String) : Except SourceError Program :=
  ofLines 0 (linesOf text.toList)

end Program

end Wireform
