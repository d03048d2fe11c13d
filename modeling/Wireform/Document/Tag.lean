import Wireform.Document.Error

/-!
The types of a document's nodes, and the type that the text of a plain scalar has by itself:
nothing, a truth value, a number in one of several bases, a date, or else a text.
-/

namespace Wireform.Document

/-- The types of nodes. All that have no meaning here are one. -/
inductive Tag where
  | null
  | bool
  | int
  | float
  | binary
  | timestamp
  | omap
  | pairs
  | set
  | str
  | seq
  | map
  | merge
  | value
  | unknown
  deriving DecidableEq

/-- What the names of the types in the format begin with. -/
def Tag.core : String :=
  "tag:yaml.org,2002:"

/-- The type with a full name. -/
def Tag.ofName (name : String) : Tag :=
  match [("null", Tag.null), ("bool", .bool), ("int", .int), ("float", .float),
    ("binary", .binary), ("timestamp", .timestamp), ("omap", .omap), ("pairs", .pairs),
    ("set", .set), ("str", .str), ("seq", .seq), ("map", .map), ("merge", .merge),
    ("value", .value)].find? fun t => core ++ t.1 = name with
  | some (_, t) => t
  | none => .unknown

/-! ## Texts with a type of their own -/

/-- The words for truth values, in lower case. -/
def truthWords : List (String × Bool) :=
  [("yes", true), ("no", false), ("true", true), ("false", false), ("on", true), ("off", false)]

/-- Is the word written in small letters, in capitals, or with one capital in front? -/
def isCasing (word : String) (cs : List Char) : Bool :=
  let low := word.toList
  let up := low.map Char.toUpper
  cs == low || cs == up || cs == up.take 1 ++ low.drop 1

/-- A text for nothing. -/
def isNull (cs : List Char) : Bool :=
  cs.isEmpty || cs == ['~'] || isCasing "null" cs

/-- A text for a truth value. -/
def isTruth (cs : List Char) : Bool :=
  truthWords.any fun w => isCasing w.1 cs

/-- A text without its sign. -/
def dropSign : List Char → List Char
  | c :: cs => if c = '+' ∨ c = '-' then cs else c :: cs
  | [] => []

/-- Is the text made of characters of a class, or underscores, one of them at least? -/
def isRun (p : Char → Bool) (cs : List Char) : Bool :=
  !cs.isEmpty && cs.all fun c => p c || c == '_'

/-- Is the text a part of a number in base 60: one digit, or two of which the first is at most
five? -/
def isSixtieth : List Char → Bool
  | [a] => a.isDigit
  | [a, b] => '0' ≤ a && a ≤ '5' && b.isDigit
  | _ => false

/-- The parts of a row between the items that are equal to one. -/
def splitAt {α : Type} [DecidableEq α] (sep : α) : List α → List (List α)
  | [] => [[]]
  | c :: cs =>
    if c = sep then [] :: splitAt sep cs
    else
      match splitAt sep cs with
      | [] => [[c]]
      | part :: parts => (c :: part) :: parts

/-- Does the text begin with a digit of the class and go on with digits and underscores? -/
def isDigits (first : Char → Bool) : List Char → Bool
  | c :: cs => first c && cs.all fun c => c.isDigit || c == '_'
  | [] => false

/-- A digit other than zero. -/
def isNonzero (c : Char) : Bool :=
  '1' ≤ c && c ≤ '9'

/-- A text for a whole number: binary, octal, decimal, hexadecimal, or in base 60. -/
def isInt (cs : List Char) : Bool :=
  match dropSign cs with
  | '0' :: [] => true
  | '0' :: 'b' :: ds => isRun (fun c => c == '0' || c == '1') ds
  | '0' :: 'x' :: ds =>
    isRun (fun c => c.isDigit || ('a' ≤ c && c ≤ 'f') || ('A' ≤ c && c ≤ 'F')) ds
  | '0' :: ds => isRun (fun c => '0' ≤ c && c ≤ '7') ds
  | body =>
    match splitAt ':' body with
    | whole :: parts => isDigits isNonzero whole && parts.all isSixtieth
    | [] => false

/-- Digits and underscores behind a point, then an exponent with its sign or nothing. -/
def isFraction (cs : List Char) : Bool :=
  match cs.dropWhile fun c => c.isDigit || c == '_' with
  | [] => true
  | e :: sign :: ds =>
    (e == 'e' || e == 'E') && (sign == '-' || sign == '+') && !ds.isEmpty && ds.all Char.isDigit
  | _ => false

/-- A text for a number with a point, in base 10 or 60, or for one without digits. With a sign,
there is a digit in front of the point, unless the number is infinite. -/
def isFloat (cs : List Char) : Bool :=
  let body := dropSign cs
  let whole := body.takeWhile (· != '.')
  match body.dropWhile (· != '.') with
  | [] => false
  | _ :: rest =>
    if whole.isEmpty then
      isCasing "inf" rest ||
        (cs.head? == some '.' && ((startsWithDigit rest && isFraction rest) ||
          ["nan".toList, "NaN".toList, "NAN".toList].contains rest))
    else
      match splitAt ':' whole with
      | [] => false
      | [part] => isDigits Char.isDigit part && isFraction rest
      | part :: parts =>
        isDigits Char.isDigit part && parts.all isSixtieth &&
          rest.all fun c => c.isDigit || c == '_'
where
  /-- Does the text start with a digit? -/
  startsWithDigit : List Char → Bool
    | c :: _ => c.isDigit
    | [] => false

/-! ## Dates and moments -/

/-- The parts of a date or moment as they are written. -/
structure Stamp where
  date : Date
  /-- Whether month and day have two digits. -/
  padded : Bool
  time : Option TimeOfDay
  /-- Minutes ahead of world time. -/
  offset : Option Int
  deriving DecidableEq

/-- Between `least` and `most` digits at the front, as many as there are. -/
def digitsWithin (least most : Nat) (cs : List Char) : Option (List Char × List Char) :=
  let ds := (cs.take most).takeWhile Char.isDigit
  if ds.length < least then none else some (ds, cs.drop ds.length)

/-- The text behind a character that must be there. -/
def after? (c : Char) : List Char → Option (List Char)
  | d :: cs => if d = c then some cs else none
  | [] => none

/-- The microseconds that the digits behind a point stand for; those beyond the sixth do not
count. -/
def microseconds (ds : List Char) : Nat :=
  Statement.natOfDigits ((ds ++ List.replicate 6 '0').take 6)

/-- The distance from world time that ends a moment, in minutes. -/
def zone? : List Char → Option (Option Int)
  | [] => some none
  | cs =>
    match cs.dropWhile fun c => c == ' ' || c == '\t' with
    | ['Z'] => some (some 0)
    | sign :: rest => do
      if sign ≠ '+' ∧ sign ≠ '-' then failure
      let (hours, rest) ← digitsWithin 1 2 rest
      let minutes ←
        match rest with
        | [] => pure []
        | _ => do
          let (minutes, rest) ← digitsWithin 2 2 (← after? ':' rest)
          if rest.isEmpty then pure minutes else failure
      let total : Int := 60 * Statement.natOfDigits hours + Statement.natOfDigits minutes
      return some (if sign = '-' then -total else total)
    | [] => none

/-- The digits behind a point, if there is one. -/
def fraction : List Char → List Char × List Char
  | '.' :: rest => (rest.takeWhile Char.isDigit, rest.dropWhile Char.isDigit)
  | rest => ([], rest)

/-- The gap between a date and a time. -/
def afterGap? : List Char → Option (List Char)
  | c :: cs =>
    if c = 'T' ∨ c = 't' then some cs
    else if c = ' ' ∨ c = '\t' then some (cs.dropWhile fun c => c == ' ' || c == '\t')
    else none
  | [] => none

/-- The date or moment that a text spells. -/
def stamp? (cs : List Char) : Option Stamp := do
  let (year, cs) ← digitsWithin 4 4 cs
  let (month, cs) ← digitsWithin 1 2 (← after? '-' cs)
  let (day, cs) ← digitsWithin 1 2 (← after? '-' cs)
  let number := Statement.natOfDigits
  let date : Date := { year := number year, month := number month, day := number day }
  let padded := month.length = 2 && day.length = 2
  if cs.isEmpty then return { date, padded, time := none, offset := none }
  let (hour, cs) ← digitsWithin 1 2 (← afterGap? cs)
  let (minute, cs) ← digitsWithin 2 2 (← after? ':' cs)
  let (second, cs) ← digitsWithin 2 2 (← after? ':' cs)
  let (part, cs) := fraction cs
  let offset ← zone? cs
  return {
    date, padded, offset
    time := some
      { hour := number hour, minute := number minute, second := number second,
        microsecond := microseconds part } }

/-- A text for a date with two digits for month and day, or for a moment. -/
def isTimestamp (cs : List Char) : Bool :=
  match stamp? cs with
  | some s => s.padded || s.time.isSome
  | none => false

/-- The type that the text of a plain scalar has by itself. A line end behind it does not count. -/
def Tag.ofPlain (text : List Char) : Tag :=
  let cs := if text.getLast? = some '\n' ∧ text ≠ ['\n'] then text.dropLast else text
  if isTruth cs then .bool
  else if isFloat cs then .float
  else if isInt cs then .int
  else if cs == ['<', '<'] then .merge
  else if isNull cs then .null
  else if isTimestamp cs then .timestamp
  else if cs == ['='] then .value
  else if cs == ['!'] || cs == ['&'] || cs == ['*'] then .unknown
  else .str

end Wireform.Document
